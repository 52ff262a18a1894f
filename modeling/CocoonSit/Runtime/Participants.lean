import CocoonSit.Lib.Joined
import CocoonSit.Lib.Numbering
import CocoonSit.Model.Entities
import CocoonSit.Model.Python

/-!
# Who speaks in a chat group

In a room's prompt each user message carries a label of its sender: the display name, with a number
from the second sender of that name on, and `participant_n` for senders without a name.  Display
names are free text, so a name may read like a label that was made for somebody else; the labels
tell the senders apart exactly if no name does.
-/

namespace CocoonSit

namespace Participants

open Numbering

def participantKey (message : Message) : Option String :=
  (message.senderUserId.filter (· ≠ "")).map ("user:" ++ ·) <|>
    (message.externalSenderId.filter (· ≠ "")).map ("external:" ++ ·) <|>
    (message.externalSenderDisplayName.filter (· ≠ "")).map ("display:" ++ ·)

/-- `str(external_sender_display_name or "").strip()`. -/
def displayName (message : Message) : String := strip (message.externalSenderDisplayName.getD "")

/-- The variables of the loop in `_participant_alias`. -/
structure Labels where
  participants : List (String × String) := []
  usedLabels : String → ℕ := fun _ => 0
  nextIndex : ℕ := 1

/-- A participant who is not in the map yet. -/
def addParticipant (labels : Labels) (key name : String) : Labels :=
  if name = "" then
    { labels with
      participants := labels.participants ++ [(key, "participant_" ++ toString labels.nextIndex)]
      nextIndex := labels.nextIndex + 1 }
  else
    let used := labels.usedLabels name + 1
    let label := if 1 < used then name ++ " (" ++ toString used ++ ")" else name
    { labels with
      participants := labels.participants ++ [(key, label)]
      usedLabels := Function.update labels.usedLabels name used }

/-- One turn of the loop. -/
def addMessage (labels : Labels) (message : Message) : Labels :=
  if message.role = .user then
    match participantKey message with
    | none => labels
    | some key =>
      if key ∈ labels.participants.map Prod.fst then labels
      else addParticipant labels key (displayName message)
  else labels

def participantAlias (target : Target) (visibleMessages : List Message) (message : Message) :
    Option String :=
  match participantKey message with
  | none => none
  | some key =>
    match target with
    | .cocoon _ => some "you"
    | .chatGroup _ =>
      let labels := visibleMessages.foldl addMessage {}
      some ((labels.participants.lookup key).getD "participant")

/-! ## The labels -/

/-- The label of the `k`th participant of a name, or without a name. -/
def labelOf (occurrence : String × ℕ) : String :=
  if occurrence.1 = "" then "participant_" ++ toString occurrence.2
  else if 1 < occurrence.2 then occurrence.1 ++ " (" ++ toString occurrence.2 ++ ")"
  else occurrence.1

def firstMessages (visibleMessages : List Message) : List Message :=
  visibleMessages.foldl (fun firsts message =>
    if message.role = .user ∧ (participantKey message).isSome ∧
        ∀ first ∈ firsts, participantKey first ≠ participantKey message then
      firsts ++ [message]
    else firsts) []

/-- The names of the participants, in the order of their first messages. -/
def participantNames (visibleMessages : List Message) : List String :=
  (firstMessages visibleMessages).map displayName

/-- No name reads like the numbered label of another name, or like the label of a participant
without a name. -/
def NamesApart (names : List String) : Prop :=
  ∀ name ∈ names, name ≠ "" →
    (∀ other ∈ names, other ≠ "" → ∀ k, 2 ≤ k → k ≤ names.count other →
      name ≠ other ++ " (" ++ toString k ++ ")") ∧
    ∀ k, 1 ≤ k → k ≤ names.count "" → name ≠ "participant_" ++ toString k

/-- The labels tell the participants of a window apart. -/
def AliasesFaithful (target : Target) (visibleMessages : List Message) : Prop :=
  ∀ message ∈ visibleMessages, ∀ message' ∈ visibleMessages,
    message.role = .user → message'.role = .user →
      (participantAlias target visibleMessages message =
          participantAlias target visibleMessages message' ↔
        participantKey message = participantKey message')

/-! ## Texts -/

lemma toList_toString (n : ℕ) : (toString n).toList = Nat.toDigits 10 n := Nat.toList_repr

lemma toDigits_injective {m n : ℕ} (h : Nat.toDigits 10 m = Nat.toDigits 10 n) : m = n := by
  rw [← Nat.ofDigitChars_toDigits (b := 10) (n := m) (by omega) (by omega), h,
    Nat.ofDigitChars_toDigits (by omega) (by omega)]

lemma isDigit_of_mem {n : ℕ} {c : Char} (h : c ∈ Nat.toDigits 10 n) : c.isDigit = true :=
  Nat.isDigit_of_mem_toDigits (by omega) (by omega) h

lemma numbered_label_inj {name name' : String} {k k' : ℕ}
    (h : name ++ " (" ++ toString k ++ ")" = name' ++ " (" ++ toString k' ++ ")") :
    name = name' ∧ k = k' := by
  have hlist : (name.toList ++ [' ']) ++ '(' :: (Nat.toDigits 10 k ++ [')']) =
      (name'.toList ++ [' ']) ++ '(' :: (Nat.toDigits 10 k' ++ [')']) := by
    have := congrArg String.toList h
    simpa [String.toList_append, toList_toString] using this
  have hnot : ∀ n : ℕ, '(' ∉ Nat.toDigits 10 n ++ [')'] := by
    intro n hmem
    rcases List.mem_append.mp hmem with hdigit | hclose
    · exact absurd (isDigit_of_mem hdigit) (by decide)
    · exact absurd hclose (by decide)
  obtain ⟨hname, hnumber⟩ := Joined.split_last (hnot k) (hnot k') hlist
  exact ⟨String.toList_inj.mp (List.append_cancel_right hname),
    toDigits_injective (List.append_cancel_right hnumber)⟩

lemma generated_ne_numbered {name : String} {k k' : ℕ} :
    "participant_" ++ toString k ≠ name ++ " (" ++ toString k' ++ ")" := by
  intro h
  have hlist := congrArg (fun s : String => s.toList.getLast?) h
  have hleft : ("participant_" ++ toString k).toList.getLast? = (Nat.toDigits 10 k).getLast? := by
    rw [String.toList_append, toList_toString, List.getLast?_append_of_ne_nil _ Nat.toDigits_ne_nil]
  have hright : (name ++ " (" ++ toString k' ++ ")").toList.getLast? = some ')' := by
    rw [String.toList_append]
    exact List.getLast?_append_of_ne_nil _ (by decide)
  rw [hleft, hright] at hlist
  exact absurd (isDigit_of_mem (List.mem_of_getLast? hlist)) (by decide)

lemma generated_inj {k k' : ℕ} (h : "participant_" ++ toString k = "participant_" ++ toString k') :
    k = k' := by
  have hlist := congrArg String.toList h
  rw [String.toList_append, String.toList_append, toList_toString, toList_toString] at hlist
  exact toDigits_injective (List.append_cancel_left hlist)

/-- The labels of a list of names are different exactly if no name reads like one of them. -/
theorem labelOf_injOn_iff {names : List String} :
    (∀ p ∈ numbered names, ∀ q ∈ numbered names, labelOf p = labelOf q → p = q) ↔
      NamesApart names := by
  constructor
  · intro h name hname hne
    have hfirst : (name, 1) ∈ numbered names :=
      mem_numbered.mpr ⟨le_rfl, List.one_le_count_iff.mpr hname⟩
    have hlabel : labelOf (name, 1) = name := by simp [labelOf, hne]
    constructor
    · intro other _ hother k hk hcount heq
      have hsame := h (name, 1) hfirst (other, k) (mem_numbered.mpr ⟨by omega, hcount⟩) (by
        rw [hlabel, labelOf, if_neg hother, if_pos (show 1 < k by omega)]
        exact heq)
      have hk1 : 1 = k := congrArg Prod.snd hsame
      omega
    · intro k hk hcount heq
      have hsame := h (name, 1) hfirst ("", k) (mem_numbered.mpr ⟨hk, hcount⟩) (by
        rw [hlabel, labelOf, if_pos rfl]
        exact heq)
      exact hne (congrArg Prod.fst hsame)
  · -- a name on its own is one of the names, and reads like no other label
    have hplain : NamesApart names → ∀ name k other j, (name, k) ∈ numbered names →
        (other, j) ∈ numbered names → name ≠ "" → ¬ 1 < k →
        labelOf (name, k) = labelOf (other, j) → (name, k) = (other, j) := by
      intro h name k other j hp hq hname hk heq
      obtain ⟨hk1, hcount⟩ := mem_numbered.mp hp
      obtain ⟨hj1, hcount'⟩ := mem_numbered.mp hq
      have hmem : name ∈ names := List.one_le_count_iff.mp (hk1.trans hcount)
      have hmem' : other ∈ names := List.one_le_count_iff.mp (hj1.trans hcount')
      obtain rfl : k = 1 := by omega
      rw [labelOf, if_neg hname, if_neg hk, labelOf] at heq
      by_cases hother : other = ""
      · rw [if_pos hother] at heq
        exact absurd heq ((h name hmem hname).2 j hj1 (hother ▸ hcount'))
      · rw [if_neg hother] at heq
        by_cases hj : 1 < j
        · rw [if_pos hj] at heq
          exact absurd heq ((h name hmem hname).1 other hmem' hother j hj hcount')
        · rw [if_neg hj] at heq
          obtain rfl : j = 1 := by omega
          exact Prod.ext heq rfl
    rintro h ⟨name, k⟩ hp ⟨other, j⟩ hq heq
    by_cases hname : name = ""
    · by_cases hother : other = ""
      · rw [labelOf, if_pos hname, labelOf, if_pos hother] at heq
        exact Prod.ext (hname.trans hother.symm) (generated_inj heq)
      · by_cases hj : 1 < j
        · rw [labelOf, if_pos hname, labelOf, if_neg hother, if_pos hj] at heq
          exact absurd heq generated_ne_numbered
        · exact (hplain h other j name k hq hp hother hj heq.symm).symm
    · by_cases hk : 1 < k
      · by_cases hother : other = ""
        · rw [labelOf, if_neg hname, if_pos hk, labelOf, if_pos hother] at heq
          exact absurd heq.symm generated_ne_numbered
        · by_cases hj : 1 < j
          · rw [labelOf, if_neg hname, if_pos hk, labelOf, if_neg hother, if_pos hj] at heq
            obtain ⟨hnames, hnumbers⟩ := numbered_label_inj heq
            exact Prod.ext hnames hnumbers
          · exact (hplain h other j name k hq hp hother hj heq.symm).symm
      · exact hplain h name k other j hp hq hname hk heq

/-! ## The loop -/

/-- Whether a message is the first of a participant. -/
def IsNew (firsts : List Message) (message : Message) : Prop :=
  message.role = .user ∧ (participantKey message).isSome ∧
    ∀ first ∈ firsts, participantKey first ≠ participantKey message

lemma firstMessages_concat (visible : List Message) (message : Message) [Decidable
    (IsNew (firstMessages visible) message)] :
    firstMessages (visible ++ [message]) =
      if IsNew (firstMessages visible) message then firstMessages visible ++ [message]
      else firstMessages visible := by
  unfold firstMessages IsNew
  rw [List.foldl_append, List.foldl_cons, List.foldl_nil]
  congr

lemma key_of_mem_firstMessages {visible : List Message} {message : Message}
    (h : message ∈ firstMessages visible) :
    message ∈ visible ∧ message.role = .user ∧ (participantKey message).isSome := by
  classical
  induction visible using List.reverseRecOn with
  | nil => cases h
  | append_singleton visible last ih =>
    rw [firstMessages_concat] at h
    split at h
    · next hnew =>
      rcases List.mem_append.mp h with hold | hlast
      · obtain ⟨hmem, hrest⟩ := ih hold
        exact ⟨List.mem_append_left _ hmem, hrest⟩
      · obtain rfl := List.mem_singleton.mp hlast
        exact ⟨List.mem_append_right _ hlast, hnew.1, hnew.2.1⟩
    · obtain ⟨hmem, hrest⟩ := ih h
      exact ⟨List.mem_append_left _ hmem, hrest⟩

lemma nodup_keys_firstMessages (visible : List Message) :
    ((firstMessages visible).map participantKey).Nodup := by
  classical
  induction visible using List.reverseRecOn with
  | nil => exact List.nodup_nil
  | append_singleton visible last ih =>
    rw [firstMessages_concat]
    split
    · next hnew =>
      rw [List.map_append]
      refine ih.append (List.nodup_singleton _) (List.disjoint_singleton.mpr fun h => ?_)
      obtain ⟨first, hfirst, heq⟩ := List.mem_map.mp h
      exact hnew.2.2 first hfirst heq
    · exact ih

lemma exists_firstMessage {visible : List Message} {message : Message} (hmem : message ∈ visible)
    (hrole : message.role = .user) (hkey : (participantKey message).isSome) :
    ∃ first ∈ firstMessages visible, participantKey first = participantKey message := by
  classical
  induction visible using List.reverseRecOn with
  | nil => cases hmem
  | append_singleton visible last ih =>
    rw [firstMessages_concat]
    rcases List.mem_append.mp hmem with hold | hlast
    · obtain ⟨first, hfirst, heq⟩ := ih hold
      refine ⟨first, ?_, heq⟩
      split
      · exact List.mem_append_left _ hfirst
      · exact hfirst
    · obtain rfl := List.mem_singleton.mp hlast
      split
      · exact ⟨message, List.mem_append_right _ hlast, rfl⟩
      · next hold =>
        by_contra hnone
        exact hold ⟨hrole, hkey, fun first hfirst heq => hnone ⟨first, hfirst, heq⟩⟩

def entryOf (participant : Message × (String × ℕ)) : String × String :=
  ((participantKey participant.1).getD "", labelOf participant.2)

/-- The participants with the numbers of their names. -/
def numberedMessages (firsts : List Message) : List (Message × (String × ℕ)) :=
  firsts.zip (numbered (firsts.map displayName))

lemma map_fst_numberedMessages (firsts : List Message) :
    (numberedMessages firsts).map Prod.fst = firsts :=
  List.map_fst_zip (by simp)

lemma numberedMessages_concat (firsts : List Message) (message : Message) :
    numberedMessages (firsts ++ [message]) = numberedMessages firsts ++
      [(message, displayName message,
        (firsts.map displayName).count (displayName message) + 1)] := by
  rw [numberedMessages, List.map_append, List.map_singleton, numbered_concat,
    List.zip_append (by simp)]
  rfl

/-- What the variables hold after these participants. -/
structure Follows (firsts : List Message) (labels : Labels) : Prop where
  participants : labels.participants = (numberedMessages firsts).map entryOf
  used : ∀ name, name ≠ "" → labels.usedLabels name = (firsts.map displayName).count name
  next : labels.nextIndex = (firsts.map displayName).count "" + 1

lemma Follows.mem_iff {firsts : List Message} {labels : Labels} (h : Follows firsts labels)
    (hkeys : ∀ first ∈ firsts, (participantKey first).isSome) {key : String} :
    key ∈ labels.participants.map Prod.fst ↔ ∃ first ∈ firsts, participantKey first = some key := by
  have hmap : labels.participants.map Prod.fst =
      firsts.map fun first => (participantKey first).getD "" := by
    conv_rhs => rw [← map_fst_numberedMessages firsts]
    rw [h.participants, List.map_map, List.map_map]
    rfl
  rw [hmap, List.mem_map]
  refine exists_congr fun first => and_congr_right fun hfirst => ?_
  obtain ⟨found, hfound⟩ := Option.isSome_iff_exists.mp (hkeys first hfirst)
  rw [hfound, Option.getD_some, Option.some_inj]

lemma Follows.add {firsts : List Message} {labels : Labels} (h : Follows firsts labels)
    {message : Message} {key : String} (hkey : participantKey message = some key) :
    Follows (firsts ++ [message]) (addParticipant labels key (displayName message)) := by
  unfold addParticipant
  by_cases hname : displayName message = ""
  · rw [if_pos hname]
    refine ⟨?_, fun name hne => ?_, ?_⟩
    · dsimp only
      rw [numberedMessages_concat, List.map_append, h.participants, h.next, hname]
      simp [entryOf, hkey, labelOf]
    · dsimp only
      rw [h.used name hne, List.map_append, List.count_append, List.map_singleton, hname,
        List.count_singleton, if_neg (by simpa using Ne.symm hne), Nat.add_zero]
    · dsimp only
      rw [h.next, List.map_append, List.count_append, List.map_singleton, hname,
        List.count_singleton_self]
  · rw [if_neg hname]
    refine ⟨?_, fun name hne => ?_, ?_⟩
    · dsimp only
      rw [numberedMessages_concat, List.map_append, h.participants, h.used _ hname]
      simp [entryOf, hkey, labelOf, hname]
    · dsimp only
      rw [List.map_append, List.count_append, List.map_singleton, List.count_singleton]
      by_cases hsame : displayName message = name
      · subst hsame
        rw [Function.update_self, h.used _ hne, if_pos (by simp)]
      · rw [Function.update_of_ne (Ne.symm hsame), h.used _ hne, if_neg (by simpa using hsame),
          Nat.add_zero]
    · dsimp only
      rw [h.next, List.map_append, List.count_append, List.map_singleton, List.count_singleton,
        if_neg (by simpa using hname), Nat.add_zero]

lemma follows_labels (visible : List Message) :
    Follows (firstMessages visible) (visible.foldl addMessage {}) := by
  classical
  induction visible using List.reverseRecOn with
  | nil => exact ⟨rfl, fun _ _ => rfl, rfl⟩
  | append_singleton visible last ih =>
    have hkeys : ∀ first ∈ firstMessages visible, (participantKey first).isSome :=
      fun first hfirst => (key_of_mem_firstMessages hfirst).2.2
    rw [List.foldl_append, List.foldl_cons, List.foldl_nil, firstMessages_concat]
    generalize hlabels : visible.foldl addMessage {} = labels at ih ⊢
    unfold addMessage
    by_cases hrole : last.role = .user
    · rw [if_pos hrole]
      cases hkey : participantKey last with
      | none =>
        rw [if_neg fun hnew => by simpa [hkey] using hnew.2.1]
        exact ih
      | some key =>
        dsimp only
        by_cases hmem : key ∈ labels.participants.map Prod.fst
        · obtain ⟨first, hfirst, heq⟩ := (ih.mem_iff hkeys).mp hmem
          rw [if_pos hmem, if_neg fun hnew => hnew.2.2 first hfirst (heq.trans hkey.symm)]
          exact ih
        · have hnew : IsNew (firstMessages visible) last := by
            refine ⟨hrole, by simp [hkey], fun first hfirst heq => ?_⟩
            exact hmem ((ih.mem_iff hkeys).mpr ⟨first, hfirst, heq.trans hkey⟩)
          rw [if_neg hmem, if_pos hnew]
          exact ih.add hkey
    · rw [if_neg hrole, if_neg fun hnew => hrole hnew.1]
      exact ih

lemma participantAlias_eq {visible : List Message} {message first : Message} {room : RowId}
    {occurrence : String × ℕ}
    (hmem : (first, occurrence) ∈ numberedMessages (firstMessages visible))
    (hkey : participantKey first = participantKey message) :
    participantAlias (.chatGroup room) visible message = some (labelOf occurrence) := by
  have hfirst : first ∈ firstMessages visible :=
    map_fst_numberedMessages (firstMessages visible) ▸ List.mem_map_of_mem (f := Prod.fst) hmem
  obtain ⟨key, hfound⟩ :=
    Option.isSome_iff_exists.mp (key_of_mem_firstMessages hfirst).2.2
  have hlookup : (visible.foldl addMessage {}).participants.lookup key =
      some (labelOf occurrence) := by
    rw [(follows_labels visible).participants]
    obtain ⟨before, after, hsplit⟩ := List.append_of_mem hmem
    rw [List.lookup_eq_some_iff, hsplit, List.map_append, List.map_cons]
    refine ⟨before.map entryOf, after.map entryOf, ?_, ?_⟩
    · rw [entryOf, hfound, Option.getD_some]
    · intro entry hentry
      obtain ⟨participant, hparticipant, rfl⟩ := List.mem_map.mp hentry
      -- the keys of the participants are all different
      have hnodup := nodup_keys_firstMessages visible
      rw [← map_fst_numberedMessages (firstMessages visible), hsplit, List.map_append,
        List.map_append, List.map_cons, List.map_cons, List.nodup_append] at hnodup
      have hne : participantKey participant.1 ≠ participantKey first :=
        hnodup.2.2 _ (List.mem_map_of_mem (List.mem_map_of_mem hparticipant)) _ List.mem_cons_self
      have hisSome : (participantKey participant.1).isSome := by
        have hmemFirst : participant.1 ∈ firstMessages visible := by
          rw [← map_fst_numberedMessages (firstMessages visible), hsplit, List.map_append]
          exact List.mem_append_left _ (List.mem_map_of_mem hparticipant)
        exact (key_of_mem_firstMessages hmemFirst).2.2
      obtain ⟨other, hother⟩ := Option.isSome_iff_exists.mp hisSome
      rw [hother, hfound] at hne
      have hkeys : key ≠ other := fun heq => hne (heq ▸ rfl)
      simpa [entryOf, hother] using hkeys
  rw [participantAlias, ← hkey, hfound]
  dsimp only
  rw [hlookup, Option.getD_some]

lemma participantAlias_of_none {target : Target} {visible : List Message} {message : Message}
    (h : participantKey message = none) : participantAlias target visible message = none := by
  rw [participantAlias, h]

/-! ## The labels and the participants -/

section Window

variable {visible : List Message} {first first' : Message} {occurrence occurrence' : String × ℕ}

lemma exists_occurrence (h : first ∈ firstMessages visible) :
    ∃ occurrence, (first, occurrence) ∈ numberedMessages (firstMessages visible) := by
  rw [← map_fst_numberedMessages (firstMessages visible)] at h
  obtain ⟨⟨_, occurrence⟩, hmem, rfl⟩ := List.mem_map.mp h
  exact ⟨occurrence, hmem⟩

lemma exists_message (h : occurrence ∈ numbered (participantNames visible)) :
    ∃ first, (first, occurrence) ∈ numberedMessages (firstMessages visible) := by
  have hsnd : (numberedMessages (firstMessages visible)).map Prod.snd =
      numbered (participantNames visible) := List.map_snd_zip (by simp)
  rw [← hsnd] at h
  obtain ⟨⟨first, _⟩, hmem, rfl⟩ := List.mem_map.mp h
  exact ⟨first, hmem⟩

lemma mem_firstMessages (h : (first, occurrence) ∈ numberedMessages (firstMessages visible)) :
    first ∈ firstMessages visible ∧ occurrence ∈ numbered (participantNames visible) :=
  List.of_mem_zip h

lemma key_eq_iff (h : (first, occurrence) ∈ numberedMessages (firstMessages visible))
    (h' : (first', occurrence') ∈ numberedMessages (firstMessages visible)) :
    participantKey first = participantKey first' ↔ occurrence = occurrence' := by
  have hkeys := nodup_keys_firstMessages visible
  constructor
  · intro heq
    have hfirst : first = first' :=
      List.inj_on_of_nodup_map hkeys (mem_firstMessages h).1 (mem_firstMessages h').1 heq
    have hnodup : ((numberedMessages (firstMessages visible)).map Prod.fst).Nodup := by
      rw [map_fst_numberedMessages]
      exact hkeys.of_map
    exact congrArg Prod.snd (List.inj_on_of_nodup_map hnodup h h' hfirst)
  · intro heq
    have hnodup : ((numberedMessages (firstMessages visible)).map Prod.snd).Nodup := by
      rw [numberedMessages, List.map_snd_zip (by simp)]
      exact nodup_numbered _
    have hpair := List.inj_on_of_nodup_map hnodup h h' heq
    have hfirst : first = first' := congrArg Prod.fst hpair
    rw [hfirst]

end Window

/-- In a chat group the labels tell the participants of the window apart exactly if no display name
reads like a label that is made for another one. -/
theorem aliasesFaithful_iff (room : RowId) (visible : List Message) :
    AliasesFaithful (.chatGroup room) visible ↔ NamesApart (participantNames visible) := by
  rw [← labelOf_injOn_iff]
  constructor
  · intro h p hp q hq heq
    obtain ⟨first, hfirst⟩ := exists_message hp
    obtain ⟨first', hfirst'⟩ := exists_message hq
    obtain ⟨hmem, hrole, -⟩ := key_of_mem_firstMessages (mem_firstMessages hfirst).1
    obtain ⟨hmem', hrole', -⟩ := key_of_mem_firstMessages (mem_firstMessages hfirst').1
    have halias := h first hmem first' hmem' hrole hrole'
    rw [participantAlias_eq hfirst rfl, participantAlias_eq hfirst' rfl, heq] at halias
    exact (key_eq_iff hfirst hfirst').mp (halias.mp rfl)
  · intro h message hmem message' hmem' hrole hrole'
    cases hkey : participantKey message with
    | none =>
      rw [participantAlias_of_none hkey]
      cases hkey' : participantKey message' with
      | none => simp [participantAlias_of_none hkey']
      | some key' => simp [participantAlias, hkey']
    | some key =>
      obtain ⟨first, hfirst, hsame⟩ := exists_firstMessage hmem hrole (by simp [hkey])
      obtain ⟨p, hp⟩ := exists_occurrence hfirst
      rw [participantAlias_eq hp hsame]
      cases hkey' : participantKey message' with
      | none => simp [participantAlias_of_none hkey']
      | some key' =>
        obtain ⟨first', hfirst', hsame'⟩ := exists_firstMessage hmem' hrole' (by simp [hkey'])
        obtain ⟨q, hq⟩ := exists_occurrence hfirst'
        rw [participantAlias_eq hq hsame', Option.some_inj, ← hkey, ← hkey', ← hsame, ← hsame',
          key_eq_iff hp hq]
        exact ⟨h p (mem_firstMessages hp).2 q (mem_firstMessages hq).2, congrArg labelOf⟩

/-- A message from outside. -/
def fromOutside (id sender name : String) : Message where
  id := id
  target := .chatGroup "g1"
  externalSenderId := some sender
  externalSenderDisplayName := some name
  role := .user
  content := "hi"
  createdAt := 0

/-- Two people called Ann, and one who calls herself `Ann (2)`. -/
def threeAnns : List Message :=
  [fromOutside "m1" "a" "Ann", fromOutside "m2" "b" "Ann", fromOutside "m3" "c" "Ann (2)"]

/-- The second Ann and the third person are both `Ann (2)`. -/
theorem threeAnns_share_label : ¬ AliasesFaithful (.chatGroup "g1") threeAnns := by
  intro h
  have halias := h (fromOutside "m2" "b" "Ann") (by simp [threeAnns])
    (fromOutside "m3" "c" "Ann (2)") (by simp [threeAnns]) rfl rfl
  exact absurd (halias.mp (by decide +kernel)) (by decide +kernel)

end Participants

end CocoonSit
