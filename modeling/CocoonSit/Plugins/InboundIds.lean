import CocoonSit.Lib.Joined
import CocoonSit.Plugins.ReplyRoutes

/-!
# The request ids of external messages

A message of an instant messenger is submitted under a request id made of what names it outside:
the plugin, the kind of the message, and the account, conversation and message ids.  The texts are
joined with bars and hashed, and a bar in a text is not told from a bar between two.  A message has
an id of its own exactly if the texts do not let themselves be cut at another bar.
-/

namespace CocoonSit

namespace PluginRuntimeManager

namespace InboundIds

/-- What names an external message, as the inbound path reads it. -/
structure ExternalMessage where
  pluginId : RowId
  messageKind : String
  externalAccountId : String
  externalConversationId : String
  externalMessageId : String
  stripped : ∀ text ∈ [messageKind, externalAccountId, externalConversationId, externalMessageId],
    strip text = text
  messageId_ne : externalMessageId ≠ ""

namespace ExternalMessage

variable (out : Outside) (message : ExternalMessage)

def texts : List String :=
  [message.messageKind, message.externalAccountId, message.externalConversationId,
    message.externalMessageId]

def clientRequestId : String :=
  imClientRequestId out message.pluginId message.messageKind message.externalAccountId
    message.externalConversationId message.externalMessageId

/-- The text that is hashed. -/
def raw : String := String.intercalate "|" (message.pluginId :: message.texts)

end ExternalMessage

/-- `hashlib.sha256(raw.encode("utf-8")).hexdigest()[:32]`. -/
def digest (out : Outside) (raw : String) : String :=
  String.ofList ((out.messageDispatchService.sha256Hex raw).toList.take 32)

/-- A digest has no colon: it is written in hexadecimal digits. -/
def HexDigest (out : Outside) : Prop :=
  ∀ raw, ':' ∉ (out.messageDispatchService.sha256Hex raw).toList

/-- No other message gets the request id of this one, unless the hash takes two texts to one. -/
def OwnRequestId (out : Outside) (message : ExternalMessage) : Prop :=
  ∀ other : ExternalMessage,
    (digest out other.raw = digest out message.raw → other.raw = message.raw) →
      other.clientRequestId out = message.clientRequestId out → other = message

/-- A bar in a text has white space beside it, or ends the message id. -/
def BarsApart (message : ExternalMessage) : Prop :=
  Joined.Clear isSpace '|' (message.texts.map String.toList)

/-! ## Stripped texts -/

lemma trimmed_iff_strip {text : String} :
    Joined.Trimmed isSpace text.toList ↔ strip text = text := by
  have hrdrop : strip text = String.ofList ((text.toList.dropWhile isSpace).rdropWhile isSpace) :=
    rfl
  constructor
  · rintro ⟨hhead, hlast⟩
    have hfront : text.toList.dropWhile isSpace = text.toList :=
      List.dropWhile_eq_self_iff.mpr fun hlen => by
        simpa using hhead _ (List.head?_eq_getElem? ▸ List.getElem?_eq_getElem hlen)
    have hback : text.toList.rdropWhile isSpace = text.toList :=
      List.rdropWhile_eq_self_iff.mpr fun hne => by
        simpa using hlast _ (List.getLast?_eq_getLast_of_ne_nil hne)
    rw [hrdrop, hfront, hback, String.ofList_toList]
  · intro h
    have hlist : (text.toList.dropWhile isSpace).rdropWhile isSpace = text.toList := by
      rw [← String.toList_ofList (l := (text.toList.dropWhile isSpace).rdropWhile isSpace),
        ← hrdrop, h]
    have hfront : text.toList.dropWhile isSpace = text.toList := by
      refine (List.dropWhile_suffix isSpace).eq_of_length_le ?_
      conv_lhs => rw [← hlist]
      exact (List.rdropWhile_prefix isSpace _).length_le
    rw [hfront] at hlist
    constructor
    · intro c hc
      rw [← hfront] at hc
      have := List.head?_dropWhile_not isSpace text.toList
      rw [hc] at this
      simpa using this
    · intro c hc
      rw [← hlist] at hc
      obtain ⟨hne, rfl⟩ := List.mem_getLast?_eq_getLast hc
      simpa using List.rdropWhile_last_not isSpace text.toList hne

/-! ## The hashed text -/

section Texts

variable {out : Outside} {message other : ExternalMessage}

lemma toList_intercalate (texts : List String) :
    (String.intercalate "|" texts).toList = Joined.join '|' (texts.map String.toList) := by
  induction texts with
  | nil => rfl
  | cons text texts ih =>
    cases texts with
    | nil => simp [Joined.join]
    | cons next texts =>
      rw [String.intercalate_cons_cons, String.toList_append, String.toList_append, ih]
      simp [Joined.join]

lemma admitted_texts (message : ExternalMessage) :
    Joined.Admitted isSpace (message.texts.map String.toList) := by
  have htrimmed : ∀ text ∈ message.texts, Joined.Trimmed isSpace text.toList := fun text htext =>
    trimmed_iff_strip.mpr (message.stripped text htext)
  refine ⟨htrimmed _ (by simp [ExternalMessage.texts]),
    htrimmed _ (by simp [ExternalMessage.texts]), htrimmed _ (by simp [ExternalMessage.texts]),
    htrimmed _ (by simp [ExternalMessage.texts]), ?_⟩
  simpa using message.messageId_ne

lemma raw_eq_iff (hplugin : other.pluginId = message.pluginId) :
    other.raw = message.raw ↔ Joined.join '|' (other.texts.map String.toList) =
      Joined.join '|' (message.texts.map String.toList) := by
  have hraw : ∀ m : ExternalMessage, m.raw.toList =
      m.pluginId.toList ++ '|' :: Joined.join '|' (m.texts.map String.toList) := fun m =>
    toList_intercalate (m.pluginId :: m.texts)
  rw [← String.toList_inj, hraw, hraw, hplugin]
  simp

lemma eq_of_texts (hplugin : other.pluginId = message.pluginId)
    (htexts : other.texts.map String.toList = message.texts.map String.toList) :
    other = message := by
  have heq : other.texts = message.texts :=
    List.map_injective_iff.mpr (fun _ _ => String.toList_inj.mp) htexts
  obtain ⟨plugin, kind, account, conversation, id, _, _⟩ := other
  obtain ⟨plugin', kind', account', conversation', id', _, _⟩ := message
  obtain rfl : plugin = plugin' := hplugin
  simp only [ExternalMessage.texts, List.cons.injEq, and_true] at heq
  obtain ⟨rfl, rfl, rfl, rfl⟩ := heq
  rfl

lemma clientRequestId_eq (out : Outside) (message : ExternalMessage) :
    message.clientRequestId out =
      "plugin-im:" ++ message.pluginId ++ ":" ++ digest out message.raw := rfl

lemma clientRequestId_inj (hhex : HexDigest out)
    (h : other.clientRequestId out = message.clientRequestId out) :
    other.pluginId = message.pluginId ∧ digest out other.raw = digest out message.raw := by
  have hcolon : ∀ raw, ':' ∉ (digest out raw).toList := fun raw hmem => by
    rw [digest, String.toList_ofList] at hmem
    exact hhex raw (List.mem_of_mem_take hmem)
  have hlist := congrArg String.toList h
  rw [clientRequestId_eq, clientRequestId_eq] at hlist
  simp only [String.toList_append, List.append_assoc] at hlist
  have hrest := List.append_cancel_left hlist
  obtain ⟨hplugin, hdigest⟩ := Joined.split_last (hcolon other.raw) (hcolon message.raw) hrest
  exact ⟨String.toList_inj.mp hplugin, String.toList_inj.mp hdigest⟩

lemma exists_message (pluginId : RowId) {fields : List (List Char)}
    (hfields : Joined.Admitted isSpace fields) (hlen : fields.length = 4) :
    ∃ other : ExternalMessage, other.pluginId = pluginId ∧
      other.texts.map String.toList = fields := by
  obtain ⟨kind, account, conversation, id, rfl⟩ : ∃ a b c e, fields = [a, b, c, e] := by
    match fields, hlen with
    | [a, b, c, e], _ => exact ⟨a, b, c, e, rfl⟩
  have htrimmed : ∀ {field : List Char}, Joined.Trimmed isSpace field →
      strip (String.ofList field) = String.ofList field := fun h =>
    trimmed_iff_strip.mp (by rwa [String.toList_ofList])
  obtain ⟨hkind, haccount, hconversation, hid, hne⟩ := hfields
  refine ⟨{ pluginId := pluginId
            messageKind := String.ofList kind
            externalAccountId := String.ofList account
            externalConversationId := String.ofList conversation
            externalMessageId := String.ofList id
            stripped := ?_
            messageId_ne := ?_ }, rfl, by simp [ExternalMessage.texts]⟩
  · simp only [List.forall_mem_cons, List.not_mem_nil, false_implies, implies_true, and_true]
    exact ⟨htrimmed hkind, htrimmed haccount, htrimmed hconversation, htrimmed hid⟩
  · intro heq
    exact hne (by simpa using congrArg String.toList heq)

/-- What the inbound path submits has the request id of a message. -/
theorem clientRequestId_of_inbound {db : Db} {pluginId : RowId} {payload : JsonDict}
    {target : Target} {sub : ChatSubmission}
    (h : imInboundSubmission out db pluginId payload = .ok (target, sub)) :
    ∃ message : ExternalMessage, message.pluginId = pluginId ∧
      sub.clientRequestId = message.clientRequestId out := by
  unfold imInboundSubmission at h
  obtain ⟨route, -, h⟩ := except_bind_eq_ok.mp h
  obtain ⟨inboundTarget, -, h⟩ := except_bind_eq_ok.mp h
  obtain ⟨fields, -, h⟩ := except_bind_eq_ok.mp h
  dsimp only at h
  split at h
  · cases h
  split at h
  · cases h
  next hid =>
  obtain ⟨senderUserId, -, h⟩ := except_bind_eq_ok.mp h
  obtain ⟨ownerUserId, -, h⟩ := except_bind_eq_ok.mp h
  obtain ⟨memoryOwnerUserId, -, h⟩ := except_bind_eq_ok.mp h
  obtain ⟨routeMetadata, -, h⟩ := except_bind_eq_ok.mp h
  obtain ⟨metadata, -, h⟩ := except_bind_eq_ok.mp h
  obtain ⟨rawPayload, -, h⟩ := except_bind_eq_ok.mp h
  cases h
  have hstrip : ∀ (d : JsonDict) (k : String), strip (textField out d k) = textField out d k :=
    fun d k => strip_strip _
  refine ⟨{ pluginId := pluginId
            messageKind := textField out payload "message_kind"
            externalAccountId := textField out fields "account_id"
            externalConversationId := textField out fields "conversation_id"
            externalMessageId := textField out fields "message_id"
            stripped := by simp [hstrip]
            messageId_ne := hid }, rfl, rfl⟩

/-- A message has a request id of its own exactly if no bar in its texts could be one between
them. -/
theorem ownRequestId_iff (hhex : HexDigest out) (message : ExternalMessage) :
    OwnRequestId out message ↔ BarsApart message := by
  have hd : isSpace '|' = false := by decide
  have hclear : (∀ fields, Joined.Admitted isSpace fields → fields.length = 4 →
      Joined.join '|' fields = Joined.join '|' (message.texts.map String.toList) →
        fields = message.texts.map String.toList) ↔ BarsApart message :=
    Joined.forall_eq_iff_clear hd (admitted_texts message)
  rw [← hclear]
  constructor
  · intro h fields hfields hlen hjoin
    obtain ⟨other, hplugin, htexts⟩ := exists_message message.pluginId hfields hlen
    have hraw : other.raw = message.raw := (raw_eq_iff hplugin).mpr (htexts ▸ hjoin)
    have hid : other.clientRequestId out = message.clientRequestId out := by
      rw [clientRequestId_eq, clientRequestId_eq, hplugin, hraw]
    rw [← htexts, h other (fun _ => hraw) hid]
  · intro h other hhash hid
    obtain ⟨hplugin, hdigest⟩ := clientRequestId_inj hhex hid
    refine eq_of_texts hplugin (h _ (admitted_texts other) rfl ?_)
    exact (raw_eq_iff hplugin).mp (hhash hdigest)

end Texts

/-- A private message. -/
def plainMessage : ExternalMessage where
  pluginId := "p1"
  messageKind := "private"
  externalAccountId := "a"
  externalConversationId := "b"
  externalMessageId := "m1"
  stripped := by decide
  messageId_ne := by decide

/-- The hash of the text of that message; nothing else is hashed. -/
def plainDigest : Outside where
  __ := allWell
  messageDispatchService := { sha256Hex := fun _ =>
    "05c8b0e7155733fdf425bb89e7f6a712d9a5db201bc3d8c7faa54dbedef4037a" }

theorem plainMessage_iff : OwnRequestId plainDigest plainMessage ↔ BarsApart plainMessage := by
  have hhex : ':' ∉
      "05c8b0e7155733fdf425bb89e7f6a712d9a5db201bc3d8c7faa54dbedef4037a".toList := by decide
  exact ownRequestId_iff (fun _ => hhex) plainMessage

/-- A message of the conversation `b|c`. -/
def barInConversation : ExternalMessage where
  pluginId := "p1"
  messageKind := "private"
  externalAccountId := "a"
  externalConversationId := "b|c"
  externalMessageId := "m1"
  stripped := by decide
  messageId_ne := by decide

/-- A message of the account `a|b`, in the conversation `c`. -/
def barInAccount : ExternalMessage where
  pluginId := "p1"
  messageKind := "private"
  externalAccountId := "a|b"
  externalConversationId := "c"
  externalMessageId := "m1"
  stripped := by decide
  messageId_ne := by decide

/-- The two messages have one request id, whatever the hash is. -/
theorem bars_share_requestId :
    (∀ out, barInAccount.clientRequestId out = barInConversation.clientRequestId out) ∧
      ∀ out, ¬ OwnRequestId out barInConversation := by
  have hraw : barInAccount.raw = barInConversation.raw := by decide
  have hid : ∀ out, barInAccount.clientRequestId out = barInConversation.clientRequestId out :=
    fun out => by rw [clientRequestId_eq, clientRequestId_eq, hraw]; rfl
  refine ⟨hid, fun out h => ?_⟩
  have heq := h barInAccount (fun _ => hraw) (hid out)
  exact absurd (congrArg ExternalMessage.externalAccountId heq) (by decide)

end InboundIds

end PluginRuntimeManager

end CocoonSit
