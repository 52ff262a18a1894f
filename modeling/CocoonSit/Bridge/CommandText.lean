import CocoonSit.Bridge.Commands
import CocoonSit.Plugins.CronGrammar

/-!
# The text of bridge commands

A private message is a command if it begins with one of the configured prefixes.  Its words, in
lower case, name the command and are passed on to its handler as arguments.  The words as they have
been typed are kept in `raw_tokens`, which nothing reads; names and tokens that the backend compares
exactly do not survive.
-/

namespace CocoonSit

open Table ImRpc

namespace CommandText

/-! ## Commands -/

structure CommandSpec where
  path : List String
  usage : String
  summary : String
  helpText : String
  opOnly : Bool
  handlerName : String
deriving DecidableEq

def commandSpecs : List CommandSpec :=
  [{ path := ["help"]
     usage := "/help"
     summary := "Show available commands."
     helpText := "Use /help, /command help, or /command subcmd help."
     opOnly := false
     handlerName := "_command_help_entry" },
   { path := ["status"]
     usage := "/status"
     summary := "Show current private-chat bridge status."
     helpText := "Shows private binding status, account info, and whether you have OP access."
     opOnly := false
     handlerName := "_command_status" },
   { path := ["bind"]
     usage := "/bind <username> <token>"
     summary := "Bind this private IM user to a Cocoon user."
     helpText :=
       "Private chat only. Stores the validated Cocoon user binding for this IM account."
     opOnly := false
     handlerName := "_command_bind" },
   { path := ["unbind"]
     usage := "/unbind"
     summary := "Remove the stored private IM binding."
     helpText := "Private chat only. Clears the saved Cocoon user binding for this IM account."
     opOnly := false
     handlerName := "_command_unbind" },
   { path := ["list"]
     usage := "/list [cocoons|targets|characters] [page]"
     summary := "List accessible cocoons, targets, or characters."
     helpText := "Targets include both cocoons and chat groups. Characters are used with /create."
     opOnly := false
     handlerName := "_command_list" },
   { path := ["create"]
     usage := "/create <cocoon|group> [name] [character_name]"
     summary := "Create a cocoon or chat group explicitly."
     helpText :=
       "Use /create cocoon ... for private cocoon creation and /create group ... for chat groups."
     opOnly := false
     handlerName := "_command_create" },
   { path := ["attach"]
     usage := "/attach <id|name> <value>"
     summary := "Attach this private chat to a cocoon."
     helpText := "Private chat only. /attach id <cocoon_id> or /attach name <cocoon_name>."
     opOnly := false
     handlerName := "_command_attach" },
   { path := ["detach"]
     usage := "/detach"
     summary := "Detach this private chat from its current cocoon."
     helpText := "Private chat only. Removes the active route for this private conversation."
     opOnly := false
     handlerName := "_command_detach" },
   { path := ["tag"]
     usage := "/tag [list|add|remove|clear] ..."
     summary := "Manage local route tags for the current private binding."
     helpText := "Tags are stored on the local route and synced into route metadata."
     opOnly := false
     handlerName := "_command_tag" },
   { path := ["op", "group", "enable"]
     usage := "/op group enable <im_group_id>"
     summary := "Enable management for an IM group without routing messages yet."
     helpText := "Marks an IM group as enabled. " ++
       "Messages are still ignored until /op group attach is used."
     opOnly := true
     handlerName := "_command_op_group_enable" },
   { path := ["op", "group", "attach"]
     usage := "/op group attach <im_group_id> <chat_group_id>"
     summary := "Attach an enabled IM group to a Cocoon chat group."
     helpText := "Creates the backend route so all messages from the IM group are forwarded " ++
       "to the chosen chat_group."
     opOnly := true
     handlerName := "_command_op_group_attach" },
   { path := ["op", "group", "detach"]
     usage := "/op group detach <im_group_id>"
     summary := "Detach an enabled IM group from its Cocoon chat group."
     helpText := "Removes the backend route but keeps the IM group enabled " ++
       "for later re-attachment."
     opOnly := true
     handlerName := "_command_op_group_detach" },
   { path := ["op", "group", "disable"]
     usage := "/op group disable <im_group_id>"
     summary := "Disable an IM group and remove any active route."
     helpText := "Disables the IM group and clears any current chat_group attachment."
     opOnly := true
     handlerName := "_command_op_group_disable" },
   { path := ["op", "role", "add"]
     usage := "/op role add <im_uid>"
     summary := "Grant OP permission to an IM user ID."
     helpText := "Adds an IM UID to the explicit OP allow-list stored in routes.json."
     opOnly := true
     handlerName := "_command_op_role_add" },
   { path := ["op", "role", "remove"]
     usage := "/op role remove <im_uid>"
     summary := "Remove explicit OP permission from an IM user ID."
     helpText := "Removes the IM UID from the explicit OP allow-list. " ++
       "The configured im_owner_id always remains OP."
     opOnly := true
     handlerName := "_command_op_role_remove" }]

/-- The settings the commands are read with, and the operators that the store lists. -/
structure CommandConfig where
  commandStart : List String
  imOwnerId : String
  opUserIds : List String

/-- A message as the bridge has it; what is missing is empty. -/
structure ImPayload where
  messageKind : String
  text : String
  senderId : String
  conversationId : String

/-- `str.lower`, which leaves words of small letters as they are. -/
structure Lower where
  lower : String → String
  small : ∀ s, (∀ c ∈ s.toList, 'a' ≤ c ∧ c ≤ 'z') → lower s = s

/-- The words of a command, in lower case and as they are typed. -/
structure ParsedCommand where
  tokens : List String
  rawTokens : List String
deriving DecidableEq

/-- What comes of a message: nothing, a text, or a call of a handler. -/
inductive CommandOutcome where
  | ignored
  | helpList (specs : List CommandSpec)
  | commandHelp (spec : CommandSpec)
  | unknown
  | call (spec : CommandSpec) (args : List String)
deriving DecidableEq

def isExplicitOpUser (config : CommandConfig) (userId : String) : Bool :=
  strip userId ≠ "" && ((config.opUserIds.map strip).filter (· ≠ "")).contains (strip userId)

def isOpUser (config : CommandConfig) (payload : ImPayload) : Bool :=
  let senderId := strip (Bridge.RouteStore.firstText [payload.senderId, payload.conversationId])
  senderId ≠ "" && (senderId = strip config.imOwnerId || isExplicitOpUser config senderId)

section Parsing

variable (l : Lower) (config : CommandConfig)

def parseCommand (text : String) : Option ParsedCommand :=
  let stripped := strip text
  if stripped = "" then none
  else
    (config.commandStart.find? fun item => item.toList.isPrefixOf stripped.toList).bind fun pre =>
      let body := strip (String.ofList (stripped.toList.drop pre.toList.length))
      if body = "" then none
      else
        let parts := (((splitWords body).filter fun item => strip item ≠ "").map strip)
        if parts = [] then none else some ⟨parts.map l.lower, parts⟩

/-- The commands a user may know of. -/
def knownSpecs (isOp : Bool) : List CommandSpec :=
  commandSpecs.filter fun spec => isOp || !spec.opOnly

def resolveCommand (tokens : List String) (isOp : Bool) : Option (CommandSpec × List String) :=
  ((orderBy (fun spec => OrderDual.toDual spec.path.length) (knownSpecs isOp)).find? fun spec =>
    spec.path.isPrefixOf tokens).map fun spec => (spec, tokens.drop spec.path.length)

/-- The help for the command of some tokens. -/
def helpFor (tokens : List String) (isOp : Bool) : CommandOutcome :=
  match resolveCommand tokens isOp with
  | none => .unknown
  | some (spec, _) => .commandHelp spec

def renderHelp (tokens : List String) (isOp : Bool) : CommandOutcome :=
  if tokens = [] then .helpList ((knownSpecs isOp).filter fun spec => spec.path ≠ ["help"])
  else helpFor tokens isOp

/-- `_handle_command`, up to the call of the handler. -/
def handleCommand (payload : ImPayload) : CommandOutcome :=
  if payload.messageKind ≠ "private" then .ignored
  else
    match parseCommand l config payload.text with
    | none => .ignored
    | some command =>
      let isOp := isOpUser config payload
      if command.tokens.head? = some "help" then renderHelp command.tokens.tail isOp
      else if command.tokens.getLast? = some "help" then helpFor command.tokens.dropLast isOp
      else
        match resolveCommand command.tokens isOp with
        | none => .unknown
        | some (spec, args) => .call spec args

end Parsing

/-! ## What should come of a message -/

/-- The command with the longest path that the tokens begin with. -/
structure Longest (tokens : List String) (isOp : Bool) (spec : CommandSpec) : Prop where
  known : spec ∈ knownSpecs isOp
  isPrefix : spec.path <+: tokens
  longest : ∀ spec' ∈ knownSpecs isOp, spec'.path <+: tokens → spec'.path.length ≤ spec.path.length

def AsksHelp (tokens : List String) : Prop :=
  tokens.head? = some "help" ∨ tokens.getLast? = some "help"

instance (tokens : List String) : Decidable (AsksHelp tokens) :=
  inferInstanceAs (Decidable (_ ∨ _))

/-- A command that does not ask for help goes to the handler of the longest path, with the other
words as they are typed; without such a path it is unknown. -/
def Dispatches (l : Lower) (config : CommandConfig) (payload : ImPayload) : Prop :=
  ∀ command, payload.messageKind = "private" → parseCommand l config payload.text = some command →
    ¬ AsksHelp command.tokens →
      (∀ spec, Longest command.tokens (isOpUser config payload) spec →
        handleCommand l config payload = .call spec (command.rawTokens.drop spec.path.length)) ∧
      ((∀ spec, ¬ Longest command.tokens (isOpUser config payload) spec) →
        handleCommand l config payload = .unknown)

/-- The outcome shows or calls a command. -/
inductive CommandOutcome.Reaches : CommandOutcome → CommandSpec → Prop
  | helpList {specs : List CommandSpec} {spec : CommandSpec} (h : spec ∈ specs) :
      Reaches (.helpList specs) spec
  | commandHelp {spec : CommandSpec} : Reaches (.commandHelp spec) spec
  | call {spec : CommandSpec} {args : List String} : Reaches (.call spec args) spec

/-- Only operators get to a command of operators or to its help. -/
def KeepsOpOnly (l : Lower) (config : CommandConfig) (payload : ImPayload) : Prop :=
  isOpUser config payload = false →
    ∀ spec, (handleCommand l config payload).Reaches spec → spec.opOnly = false

/-- The words after the path of the command that is called are in lower case. -/
def LowerArgs (l : Lower) (config : CommandConfig) (payload : ImPayload) : Prop :=
  ∀ command, payload.messageKind = "private" → parseCommand l config payload.text = some command →
    ¬ AsksHelp command.tokens → ∀ spec, Longest command.tokens (isOpUser config payload) spec →
      ∀ word ∈ command.rawTokens.drop spec.path.length, l.lower word = word

/-! ## Resolution -/

variable {l : Lower} {config : CommandConfig} {payload : ImPayload} {tokens : List String}
  {isOp : Bool} {spec : CommandSpec}

lemma mem_commandSpecs_of_known (h : spec ∈ knownSpecs isOp) : spec ∈ commandSpecs :=
  List.mem_of_mem_filter h

lemma nodup_paths : (commandSpecs.map CommandSpec.path).Nodup := by decide

lemma Longest.unique {spec' : CommandSpec} (h : Longest tokens isOp spec)
    (h' : Longest tokens isOp spec') : spec = spec' := by
  have hlen : spec.path.length = spec'.path.length :=
    le_antisymm (h'.longest spec h.known h.isPrefix) (h.longest spec' h'.known h'.isPrefix)
  have hpath : spec.path = spec'.path := by
    rw [List.prefix_iff_eq_take.mp h.isPrefix, List.prefix_iff_eq_take.mp h'.isPrefix, hlen]
  exact List.inj_on_of_nodup_map nodup_paths (mem_commandSpecs_of_known h.known)
    (mem_commandSpecs_of_known h'.known) hpath

lemma resolveCommand_spec (tokens : List String) (isOp : Bool) :
    (∃ spec, Longest tokens isOp spec ∧
        resolveCommand tokens isOp = some (spec, tokens.drop spec.path.length)) ∨
      ((∀ spec, ¬ Longest tokens isOp spec) ∧ resolveCommand tokens isOp = none) := by
  have hsorted := pairwise_orderBy (fun spec : CommandSpec => OrderDual.toDual spec.path.length)
    (knownSpecs isOp)
  unfold resolveCommand
  cases hfind : (orderBy (fun spec : CommandSpec => OrderDual.toDual spec.path.length)
      (knownSpecs isOp)).find? fun spec => spec.path.isPrefixOf tokens with
  | none =>
    refine .inr ⟨fun spec h => ?_, rfl⟩
    have hmem : spec ∈ orderBy (fun spec : CommandSpec => OrderDual.toDual spec.path.length)
        (knownSpecs isOp) := mem_orderBy.mpr h.known
    have hno := List.find?_eq_none.mp hfind spec hmem
    exact hno (List.isPrefixOf_iff_prefix.mpr h.isPrefix)
  | some spec =>
    obtain ⟨hpre, before, after, heq, hbefore⟩ := List.find?_eq_some_iff_append.mp hfind
    refine .inl ⟨spec, ⟨?_, List.isPrefixOf_iff_prefix.mp hpre, ?_⟩, rfl⟩
    · have hmem := List.mem_of_find?_eq_some hfind
      rwa [mem_orderBy] at hmem
    · intro spec' hknown hpre'
      have hmem : spec' ∈ orderBy (fun spec : CommandSpec => OrderDual.toDual spec.path.length)
          (knownSpecs isOp) := mem_orderBy.mpr hknown
      rw [heq, List.mem_append, List.mem_cons] at hmem
      rcases hmem with hmem | rfl | hmem
      · have hno := hbefore spec' hmem
        rw [List.isPrefixOf_iff_prefix.mpr hpre'] at hno
        cases hno
      · exact le_rfl
      · rw [heq, List.pairwise_append, List.pairwise_cons] at hsorted
        have hle := hsorted.2.1.1 spec' hmem
        exact OrderDual.toDual_le_toDual.mp hle

lemma resolveCommand_eq_some (h : Longest tokens isOp spec) :
    resolveCommand tokens isOp = some (spec, tokens.drop spec.path.length) := by
  rcases resolveCommand_spec tokens isOp with ⟨spec', h', heq⟩ | ⟨hnone, -⟩
  · rw [heq, h.unique h']
  · exact absurd h (hnone spec)

lemma known_of_resolve {args : List String} (h : resolveCommand tokens isOp = some (spec, args)) :
    spec ∈ knownSpecs isOp := by
  rcases resolveCommand_spec tokens isOp with ⟨spec', h', heq⟩ | ⟨-, hnone⟩
  · rw [heq] at h
    obtain ⟨rfl, -⟩ := Prod.mk.inj (Option.some.inj h)
    exact h'.known
  · rw [hnone] at h
    cases h

/-! ## Dispatch -/

lemma tokens_of_parse {text : String} {command : ParsedCommand}
    (h : parseCommand l config text = some command) :
    command.tokens = command.rawTokens.map l.lower := by
  unfold parseCommand at h
  dsimp only at h
  split at h
  · cases h
  obtain ⟨pre, -, h⟩ := Option.bind_eq_some_iff.mp h
  split at h
  · cases h
  split at h
  · cases h
  rw [← Option.some.inj h]

lemma handleCommand_eq {command : ParsedCommand} (hprivate : payload.messageKind = "private")
    (hparse : parseCommand l config payload.text = some command)
    (hhelp : ¬ AsksHelp command.tokens) :
    handleCommand l config payload =
      match resolveCommand command.tokens (isOpUser config payload) with
      | none => .unknown
      | some (spec, args) => .call spec args := by
  obtain ⟨hfirst, hlast⟩ := not_or.mp hhelp
  rw [handleCommand, if_neg (not_not.mpr hprivate), hparse]
  dsimp only
  rw [if_neg hfirst, if_neg hlast]

lemma dispatches_iff_lowerArgs :
    Dispatches l config payload ↔ LowerArgs l config payload := by
  unfold Dispatches LowerArgs
  refine forall_congr' fun command => forall_congr' fun hprivate => forall_congr' fun hparse =>
    forall_congr' fun hhelp => ?_
  rw [handleCommand_eq hprivate hparse hhelp]
  rcases resolveCommand_spec command.tokens (isOpUser config payload) with
    ⟨spec, hlongest, heq⟩ | ⟨hnone, heq⟩
  · have hargs : command.tokens.drop spec.path.length =
        (command.rawTokens.drop spec.path.length).map l.lower := by
      rw [tokens_of_parse hparse, List.map_drop]
    have hsame : command.tokens.drop spec.path.length = command.rawTokens.drop spec.path.length ↔
        ∀ word ∈ command.rawTokens.drop spec.path.length, l.lower word = word := by
      rw [hargs, map_eq_self_iff]
    rw [heq]
    constructor
    · rintro ⟨hcall, -⟩ spec' hlongest'
      obtain rfl := hlongest.unique hlongest'
      have hcall := hcall spec hlongest
      simp only [CommandOutcome.call.injEq, true_and] at hcall
      exact hsame.mp hcall
    · intro hlower
      refine ⟨fun spec' hlongest' => ?_, fun hnone => absurd hlongest (hnone spec)⟩
      obtain rfl := hlongest.unique hlongest'
      simp only [hsame.mpr (hlower spec hlongest)]
  · rw [heq]
    exact iff_of_true ⟨fun spec h => absurd h (hnone spec), fun _ => rfl⟩
      fun spec h => absurd h (hnone spec)

/-! ## Operators -/

lemma opOnly_of_known (h : spec ∈ knownSpecs false) : spec.opOnly = false := by
  have hpred := List.of_mem_filter h
  simpa using hpred

lemma helpFor_reaches (h : (helpFor tokens isOp).Reaches spec) : spec ∈ knownSpecs isOp := by
  unfold helpFor at h
  cases hresolve : resolveCommand tokens isOp with
  | none =>
    rw [hresolve] at h
    cases h
  | some resolved =>
    rw [hresolve] at h
    cases h
    exact known_of_resolve hresolve

lemma renderHelp_reaches (h : (renderHelp tokens isOp).Reaches spec) :
    spec ∈ knownSpecs isOp := by
  unfold renderHelp at h
  by_cases htokens : tokens = []
  · rw [if_pos htokens] at h
    cases h with
    | helpList h => exact List.mem_of_mem_filter h
  · rw [if_neg htokens] at h
    exact helpFor_reaches h

lemma known_of_reaches (h : (handleCommand l config payload).Reaches spec) :
    spec ∈ knownSpecs (isOpUser config payload) := by
  by_cases hprivate : payload.messageKind = "private"
  swap
  · rw [handleCommand, if_pos hprivate] at h
    cases h
  cases hparse : parseCommand l config payload.text with
  | none =>
    rw [handleCommand, if_neg (not_not.mpr hprivate), hparse] at h
    cases h
  | some command =>
    by_cases hhelp : AsksHelp command.tokens
    · rw [handleCommand, if_neg (not_not.mpr hprivate), hparse] at h
      dsimp only at h
      by_cases hfirst : command.tokens.head? = some "help"
      · rw [if_pos hfirst] at h
        exact renderHelp_reaches h
      · rw [if_neg hfirst, if_pos (hhelp.resolve_left hfirst)] at h
        exact helpFor_reaches h
    · rw [handleCommand_eq hprivate hparse hhelp] at h
      cases hresolve : resolveCommand command.tokens (isOpUser config payload) with
      | none =>
        rw [hresolve] at h
        cases h
      | some resolved =>
        rw [hresolve] at h
        cases h
        exact known_of_resolve hresolve

lemma keepsOpOnly (l : Lower) (config : CommandConfig) (payload : ImPayload) :
    KeepsOpOnly l config payload := by
  intro hop spec h
  have hknown := known_of_reaches h
  rw [hop] at hknown
  exact opOnly_of_known hknown

/-! ## `/bind` -/

/-- The command of `/bind`. -/
def bindSpec : CommandSpec where
  path := ["bind"]
  usage := "/bind <username> <token>"
  summary := "Bind this private IM user to a Cocoon user."
  helpText := "Private chat only. Stores the validated Cocoon user binding for this IM account."
  opOnly := false
  handlerName := "_command_bind"

/-- What `_command_bind` sends. -/
def bindPayload (username token : String) : JsonDict :=
  .ofList [("username", .str username), ("token", .str token)]

/-- `token` is a current token of the active user `user`, whose name is `username`. -/
structure Issued (out : RpcOutside) (t : ImTables) (username token : String) (user : User) :
    Prop where
  named : t.accounts.users.find? (fun u => u.username = username) = some user
  active : user.isActive = true
  nameText : strip username = username ∧ username ≠ ""
  tokenText : strip token = token ∧ token ≠ ""
  row : ∃ row ∈ t.bindTokens, row.userId = user.id ∧ row.revokedAt = none ∧
    out.now < row.expiresAt ∧ out.messageDispatchService.sha256Hex token = row.tokenHash

/-- The message calls `_command_bind` with a name and a token that the backend verifies for
`user`. -/
def Binds (l : Lower) (config : CommandConfig) (payload : ImPayload) (out : RpcOutside)
    (t : ImTables) (user : User) : Prop :=
  ∃ username token, handleCommand l config payload = .call bindSpec [username, token] ∧
    userToVerify out t (bindPayload username token) = .ok user ∧
      (verifiedToken out t.bindTokens user.id (bindPayload username token)).isSome = true

lemma bindSpec_known : bindSpec ∈ knownSpecs isOp := by
  cases isOp <;> decide +kernel

lemma length_path_of_bind : ∀ spec ∈ commandSpecs, spec.path.head? = some "bind" →
    spec.path.length = 1 := by
  decide +kernel

lemma path_ne_nil : ∀ spec ∈ commandSpecs, spec.path ≠ [] := by decide +kernel

lemma longest_bindSpec (args : List String) (isOp : Bool) :
    Longest ("bind" :: args) isOp bindSpec where
  known := bindSpec_known
  isPrefix := ⟨args, rfl⟩
  longest := by
    intro spec hknown hpre
    have hmem := mem_commandSpecs_of_known hknown
    have hhead : spec.path.head? = some "bind" := by
      cases hpath : spec.path with
      | nil => exact absurd hpath (path_ne_nil spec hmem)
      | cons first rest =>
        rw [hpath, List.cons_prefix_cons] at hpre
        rw [hpre.1, List.head?_cons]
    exact (length_path_of_bind spec hmem hhead).le

lemma verified_of_issued {out : RpcOutside} {t : ImTables} {username token : String} {user : User}
    (h : Issued out t username token user) :
    userToVerify out t (bindPayload username token) = .ok user ∧
      (verifiedToken out t.bindTokens user.id (bindPayload username token)).isSome = true := by
  have husername : field out (bindPayload username token) "username" = username := by
    have hgiven : bindPayload username token "username" = some (.str username) := rfl
    rw [field, PluginRuntimeManager.textField_of_str hgiven, h.nameText.1]
  have htoken : field out (bindPayload username token) "token" = token := by
    have hgiven : bindPayload username token "token" = some (.str token) := rfl
    rw [field, PluginRuntimeManager.textField_of_str hgiven, h.tokenText.1]
  constructor
  · have hgiven : ¬ (username = "" ∨ token = "") := not_or.mpr ⟨h.nameText.2, h.tokenText.2⟩
    simp only [userToVerify, husername, htoken, if_neg hgiven, h.named, Option.filter_some,
      h.active, if_true]
  · obtain ⟨row, hrow, huser, hrevoked, hexpires, hhash⟩ := h.row
    unfold verifiedToken
    rw [List.find?_isSome]
    refine ⟨row, mem_orderBy.mpr (List.mem_filter.mpr ⟨hrow, ?_⟩), ?_⟩
    · exact decide_eq_true ⟨huser, hrevoked, hexpires⟩
    · rw [htoken]
      exact decide_eq_true hhash

lemma binds_of_lower {tokens : List String} {word username token : String} {out : RpcOutside}
    {t : ImTables} {user : User} (hprivate : payload.messageKind = "private")
    (hparse : parseCommand l config payload.text = some ⟨tokens, [word, username, token]⟩)
    (hword : l.lower word = "bind") (husername : l.lower username = username)
    (htoken : l.lower token = token) (hhelp : token ≠ "help")
    (hissued : Issued out t username token user) : Binds l config payload out t user := by
  have htokens : tokens = ["bind", username, token] := by
    have hmap := tokens_of_parse hparse
    simpa [hword, husername, htoken] using hmap
  subst htokens
  have hasks : ¬ AsksHelp ["bind", username, token] := by
    simp [AsksHelp, hhelp]
  refine ⟨username, token, ?_, verified_of_issued hissued⟩
  rw [handleCommand_eq hprivate hparse hasks,
    resolveCommand_eq_some (longest_bindSpec [username, token] _)]
  rfl

/-! ## The commands of a message -/

/-- Handlers get the words as they are typed exactly when these are in lower case already; the
operators' commands stay theirs in any case; and with such a name and token `/bind` binds their
user. -/
theorem commands_dispatch_iff (l : Lower) (config : CommandConfig) (payload : ImPayload) :
    ((Dispatches l config payload ∧ KeepsOpOnly l config payload) ↔
      LowerArgs l config payload) ∧
    ∀ tokens word username token out t user, payload.messageKind = "private" →
      parseCommand l config payload.text = some ⟨tokens, [word, username, token]⟩ →
      l.lower word = "bind" → l.lower username = username → l.lower token = token →
      token ≠ "help" → Issued out t username token user → Binds l config payload out t user := by
  refine ⟨?_, fun tokens word username token out t user hprivate hparse hword husername htoken
    hhelp hissued => binds_of_lower hprivate hparse hword husername htoken hhelp hissued⟩
  rw [← dispatches_iff_lowerArgs]
  exact and_iff_left (keepsOpOnly l config payload)

/-- Lower case for texts of ASCII letters. -/
def asciiLower : Lower where
  lower s := s.map lowerChar
  small := by
    intro s hs
    rw [← String.toList_inj, String.toList_map]
    refine map_eq_self_iff.mpr fun c hc => ?_
    obtain ⟨ha, hz⟩ := hs c hc
    have hkelvin : c ≠ '\u212a' := by
      rintro rfl
      exact absurd hz (by decide)
    have hsmall : ¬ (c.val ≥ 'A'.val ∧ c.val ≤ 'Z'.val) := by
      rintro ⟨-, hupper⟩
      exact absurd (ha.trans hupper) (by decide)
    rw [lowerChar, if_neg hkelvin]
    exact dif_neg hsmall

/-- A private chat with the bridge. -/
def bindMessage : ImPayload where
  messageKind := "private"
  text := "/bind alice kX2wQ_7bT-9d"
  senderId := "10001"
  conversationId := "10001"

/-- The token comes to the handler in lower case. -/
theorem bindMessage_not_dispatched :
    handleCommand asciiLower ⟨["/"], "10000", []⟩ bindMessage =
        .call bindSpec ["alice", "kx2wq_7bt-9d"] ∧
      ¬ ∀ l config payload, Dispatches l config payload ∧ KeepsOpOnly l config payload := by
  refine ⟨by decide +kernel, fun h => ?_⟩
  have hparse : parseCommand asciiLower ⟨["/"], "10000", []⟩ bindMessage.text =
      some ⟨["bind", "alice", "kx2wq_7bt-9d"], ["bind", "alice", "kX2wQ_7bT-9d"]⟩ := by
    decide +kernel
  have hlower := dispatches_iff_lowerArgs.mp (h asciiLower ⟨["/"], "10000", []⟩ bindMessage).1 _ rfl
    hparse (by decide +kernel) bindSpec (longest_bindSpec _ _) "kX2wQ_7bT-9d" (by decide)
  exact absurd hlower (by decide +kernel)

end CommandText

end CocoonSit
