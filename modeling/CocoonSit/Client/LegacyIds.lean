import CocoonSit.Client.OlderMessages
import CocoonSit.Lib.Collect
import Mathlib.Data.List.GetD
import Mathlib.Data.Set.Function

/-!
# The id map of the client

The client numbers the server's ids as it sees them, each namespace from one on, and keeps the
numbers in the session storage, from which a reloaded page reads them again.  The two dictionaries
of a namespace are keyed by text.  `IdMap` is what one of them comes to: a number for some ids, and
the ids back.
-/

namespace CocoonSit.Client.LegacyIds

/-! ## The page -/

inductive Namespace where
  | audit
  | character
  | checkpoint
  | cocoon
  | embeddingProvider
  | group
  | groupMember
  | invite
  | memory
  | merge
  | message
  | model
  | provider
  | role
  | tag
  | user
deriving DecidableEq

structure NamespaceState where
  actualToLegacy : String → Option ℕ
  legacyToActual : String → Option String
  next : ℕ

def NamespaceState.empty : NamespaceState where
  actualToLegacy := fun _ => none
  legacyToActual := fun _ => none
  next := 1

/-- `Partial<NamespaceState>`: what is stored of a namespace. -/
structure StoredNamespace where
  actualToLegacy : Option (String → Option ℕ)
  legacyToActual : Option (String → Option String)
  next : Option ℕ

/-- What `hydrate` reads. -/
def StoredNamespace.read (stored : StoredNamespace) : NamespaceState where
  actualToLegacy := stored.actualToLegacy.getD fun _ => none
  legacyToActual := stored.legacyToActual.getD fun _ => none
  next := max 1 (stored.next.getD 1)

/-- What `persist` writes of a namespace. -/
def NamespaceState.write (own : NamespaceState) : StoredNamespace where
  actualToLegacy := some own.actualToLegacy
  legacyToActual := some own.legacyToActual
  next := some own.next

/-- The module of a page, and the item of its session storage. -/
structure Page where
  store : Namespace → NamespaceState := fun _ => .empty
  hydrated : Bool := false
  storage : Option (Namespace → Option StoredNamespace) := none

def Page.hydrate (p : Page) : Page :=
  if p.hydrated then p
  else
    { p with
      hydrated := true
      store := fun ns => ((p.storage.bind fun parsed => parsed ns).map StoredNamespace.read).getD
        (p.store ns) }

/-- `persist`, where the write succeeds. -/
def Page.persist (p : Page) : Page :=
  { p with storage := some fun ns => some (p.store ns).write }

/-- A namespace with its next number for the id. -/
def NamespaceState.assign (own : NamespaceState) (actualId : String) : NamespaceState where
  actualToLegacy := Function.update own.actualToLegacy actualId (some own.next)
  legacyToActual := Function.update own.legacyToActual (toString own.next) (some actualId)
  next := own.next + 1

def rememberLegacyId (p : Page) (ns : Namespace) (actualId : String) : Page × ℕ :=
  let p := p.hydrate
  let own := p.store ns
  match (own.actualToLegacy actualId).filter (· ≠ 0) with
  | some existing => (p, existing)
  | none =>
    ({ p with store := Function.update p.store ns (own.assign actualId) }.persist, own.next)

/-- A `number | string`: `shown` is what `String` makes of the number. -/
inductive LegacyId where
  | number (shown : String)
  | string (text : String)

def LegacyId.toString : LegacyId → String
  | .number shown => shown
  | .string text => text

/-- `/[a-z-]/i.test(text)`. -/
def hasLetter (text : String) : Bool :=
  text.toList.any fun c =>
    ('a' ≤ c && c ≤ 'z') || ('A' ≤ c && c ≤ 'Z') || c = '-'

/-- The argument is an id of the server. -/
def LegacyId.isActual : LegacyId → Bool
  | .number _ => false
  | .string text => hasLetter text

def resolveActualId (p : Page) (ns : Namespace) (legacyId : LegacyId) : Page × String :=
  let p := p.hydrate
  if legacyId.isActual then (p, legacyId.toString)
  else (p, ((p.store ns).legacyToActual legacyId.toString).getD legacyId.toString)

/-! ## Runs -/

/-- `str(uuid4())`: 32 hexadecimal digits in groups of 8, 4, 4, 4 and 12. -/
def isUuid (text : String) : Bool :=
  text.toList.length = 36 && text.toList.zipIdx.all fun entry =>
    if entry.2 ∈ [8, 13, 18, 23] then entry.1 = '-'
    else ('0' ≤ entry.1 && entry.1 ≤ '9') || ('a' ≤ entry.1 && entry.1 ≤ 'f')

structure ServerId where
  text : String
  isUuid : LegacyIds.isUuid text = true

inductive Event where
  | remember (ns : Namespace) (actualId : ServerId)
  | resolve (ns : Namespace) (legacyId : LegacyId)
  | reload

/-- A reload starts the module afresh; the session storage stays. -/
def step (p : Page) : Event → Page
  | .remember ns actualId => (rememberLegacyId p ns actualId.text).1
  | .resolve ns legacyId => (resolveActualId p ns legacyId).1
  | .reload => { storage := p.storage }

/-- The page after these events, from a new browser session on. -/
def after (es : List Event) : Page := es.foldl step {}

/-- The id that an event has the namespace remember. -/
def Event.remembers (ns : Namespace) : Event → Option String
  | .remember ns' actualId => if ns' = ns then some actualId.text else none
  | _ => none

/-- The ids seen in a namespace, the first seen first. -/
def seen (ns : Namespace) (es : List Event) : List String := Collect.collect (Event.remembers ns) es

/-- The namespace as the next lookup reads it. -/
def Page.view (p : Page) (ns : Namespace) : NamespaceState := p.hydrate.store ns

/-- The ids and the numbers from one on are one to one, and the dictionaries have nothing else. -/
structure Numbered (own : NamespaceState) (ids : List String) : Prop where
  bijOn : Set.BijOn (fun id => (own.actualToLegacy id).getD 0) {id | id ∈ ids}
    (Set.Icc 1 ids.length)
  linked : ∀ id n, own.actualToLegacy id = some n ↔ own.legacyToActual (toString n) = some id
  onlyIds : ∀ id, (own.actualToLegacy id).isSome → id ∈ ids
  onlyNumbers : ∀ text, (own.legacyToActual text).isSome → ∃ n : ℕ, toString n = text

/-! ## Decimal numerals -/

lemma toList_toString (n : ℕ) : (toString n).toList = Nat.toDigits 10 n := by
  rw [Nat.toString_eq_repr, Nat.repr_eq_ofList_toDigits, String.toList_ofList]

lemma toString_injective : Function.Injective (toString : ℕ → String) := by
  intro m n h
  have hdigits : Nat.toDigits 10 m = Nat.toDigits 10 n := by
    rw [← toList_toString, ← toList_toString, h]
  rw [← Nat.ofDigitChars_ten_toDigits (n := m), hdigits, Nat.ofDigitChars_ten_toDigits]

lemma hasLetter_toString (n : ℕ) : hasLetter (toString n) = false := by
  unfold hasLetter
  rw [List.any_eq_false, toList_toString]
  intro c hc
  have hdigit := Nat.isDigit_of_mem_toDigits (by decide) (by decide) hc
  obtain ⟨hlow, hhigh⟩ := Char.isDigit_iff_toNat.mp hdigit
  simp only [Bool.or_eq_true, Bool.and_eq_true, decide_eq_true_iff, Char.le_def,
    UInt32.le_iff_toNat_le]
  rintro ((⟨hlower, -⟩ | ⟨hupper, -⟩) | rfl)
  · exact absurd (hlower.trans hhigh) (by decide)
  · exact absurd (hupper.trans hhigh) (by decide)
  · exact absurd hlow (by decide)

lemma hasLetter_of_isUuid {text : String} (h : isUuid text = true) : hasLetter text = true := by
  unfold isUuid at h
  rw [Bool.and_eq_true, decide_eq_true_iff, List.all_eq_true] at h
  obtain ⟨hlength, hall⟩ := h
  have h8 : 8 < text.toList.length := by rw [hlength]; decide
  have hmem : (text.toList[8], 8) ∈ text.toList.zipIdx := by
    rw [List.mem_zipIdx_iff_getElem?]
    exact List.getElem?_eq_getElem h8
  have hdash := hall _ hmem
  rw [if_pos (List.mem_cons_self : 8 ∈ [8, 13, 18, 23]), decide_eq_true_iff] at hdash
  unfold hasLetter
  rw [List.any_eq_true]
  exact ⟨_, List.getElem_mem h8, Bool.or_eq_true_iff.mpr (.inr (decide_eq_true hdash))⟩

/-! ## One namespace -/

/-- The dictionaries of a namespace are the map, under numerals. -/
structure Shows (own : NamespaceState) (ids : IdMap) : Prop where
  actualToLegacy : own.actualToLegacy = ids.actualToLegacy
  legacyToActual : ∀ n : ℕ, own.legacyToActual (toString n) = ids.legacyToActual n
  next : own.next = ids.next
  onlyNumbers : ∀ text, (own.legacyToActual text).isSome → ∃ n : ℕ, toString n = text

/-- The map numbers the ids in their order, from one on. -/
structure Enumerates (ids : IdMap) (seen : List RowId) : Prop where
  next : ids.next = seen.length + 1
  legacyToActual : ∀ n, ids.legacyToActual (n + 1) = seen[n]?

lemma shows_empty : Shows .empty .empty where
  actualToLegacy := rfl
  legacyToActual := fun _ => rfl
  next := rfl
  onlyNumbers := fun _ h => Bool.noConfusion h

lemma enumerates_empty : Enumerates .empty [] where
  next := rfl
  legacyToActual := fun _ => rfl

lemma Enumerates.mem_iff {ids : IdMap} {seen : List RowId} (h : Enumerates ids seen) {id : RowId} :
    id ∈ seen ↔ (ids.actualToLegacy id).isSome := by
  constructor
  · intro hid
    obtain ⟨n, hn⟩ := List.mem_iff_getElem?.mp hid
    rw [← h.legacyToActual, ← ids.linked] at hn
    rw [hn, Option.isSome_some]
  · intro hsome
    obtain ⟨n, hn⟩ := Option.isSome_iff_exists.mp hsome
    obtain ⟨m, rfl⟩ := Nat.exists_eq_add_of_lt (ids.inRange id n hn).1
    rw [ids.linked, Nat.zero_add, h.legacyToActual] at hn
    exact List.mem_iff_getElem?.mpr ⟨m, hn⟩

lemma Shows.assign {own : NamespaceState} {ids : IdMap} (h : Shows own ids) {actualId : RowId}
    (hnew : ids.actualToLegacy actualId = none) :
    Shows (own.assign actualId) (ids.assign actualId hnew) where
  actualToLegacy := by
    simp only [NamespaceState.assign, h.actualToLegacy, h.next]
    rfl
  legacyToActual := by
    intro n
    by_cases hn : n = ids.next
    · subst hn
      simp [NamespaceState.assign, IdMap.assign, h.next]
    · have htext : toString n ≠ toString ids.next := fun heq => hn (toString_injective heq)
      simp only [NamespaceState.assign, IdMap.assign, h.next, Function.update_of_ne htext,
        Function.update_of_ne hn]
      exact h.legacyToActual n
  next := by
    simp only [NamespaceState.assign, h.next]
    rfl
  onlyNumbers := by
    intro text htext
    by_cases heq : text = toString own.next
    · exact ⟨own.next, heq.symm⟩
    · simp only [NamespaceState.assign, Function.update_of_ne heq] at htext
      exact h.onlyNumbers text htext

lemma Enumerates.assign {ids : IdMap} {seen : List RowId} (h : Enumerates ids seen)
    {actualId : RowId} (hnew : ids.actualToLegacy actualId = none) :
    Enumerates (ids.assign actualId hnew) (seen ++ [actualId]) where
  next := by
    simp [IdMap.assign, h.next]
  legacyToActual := by
    intro n
    by_cases hn : n = seen.length
    · subst hn
      simp [IdMap.assign, h.next]
    · have hne : n + 1 ≠ ids.next := by rw [h.next]; omega
      simp only [IdMap.assign, Function.update_of_ne hne, h.legacyToActual]
      rcases Nat.lt_or_ge n seen.length with hlt | hge
      · rw [List.getElem?_append_left hlt]
      · rw [List.getElem?_eq_none hge, List.getElem?_eq_none]
        rw [List.length_append, List.length_singleton]
        omega

lemma Shows.numbered {own : NamespaceState} {ids : IdMap} {seen : List RowId}
    (h : Shows own ids) (hseen : Enumerates ids seen) : Numbered own seen where
  bijOn := by
    have hnumber : ∀ {id}, id ∈ seen → ∃ n, ids.actualToLegacy id = some n := fun hid =>
      Option.isSome_iff_exists.mp (hseen.mem_iff.mp hid)
    rw [h.actualToLegacy]
    refine ⟨?_, ?_, ?_⟩
    · intro id hid
      obtain ⟨n, hn⟩ := hnumber hid
      obtain ⟨hpos, hlt⟩ := ids.inRange id n hn
      rw [hseen.next] at hlt
      simp only [hn, Option.getD_some]
      exact ⟨hpos, Nat.le_of_lt_succ hlt⟩
    · intro id hid id' hid' heq
      obtain ⟨n, hn⟩ := hnumber hid
      obtain ⟨n', hn'⟩ := hnumber hid'
      simp only [hn, hn', Option.getD_some] at heq
      subst heq
      exact Option.some.inj (((ids.linked id n).mp hn).symm.trans ((ids.linked id' n).mp hn'))
    · rintro n ⟨hpos, hle⟩
      obtain ⟨m, rfl⟩ := Nat.exists_eq_add_of_lt hpos
      have hm : m < seen.length := by omega
      have hnumbered : ids.actualToLegacy seen[m] = some (0 + m + 1) := by
        rw [ids.linked, Nat.zero_add, hseen.legacyToActual, List.getElem?_eq_getElem hm]
      exact ⟨seen[m], List.getElem_mem hm, by simp only [hnumbered, Option.getD_some]⟩
  linked := by
    intro id n
    rw [h.actualToLegacy, h.legacyToActual]
    exact ids.linked id n
  onlyIds := by
    intro id hid
    rw [h.actualToLegacy] at hid
    exact hseen.mem_iff.mpr hid
  onlyNumbers := h.onlyNumbers

/-! ## The page -/

/-- Every namespace numbers the ids seen in it, and a reload finds what the page has. -/
structure Consistent (p : Page) (es : List Event) : Prop where
  shows : ∀ ns, ∃ ids, Shows (p.view ns) ids ∧ Enumerates ids (seen ns es)
  stored : ({ storage := p.storage } : Page).view = p.view

lemma view_hydrate (p : Page) : p.hydrate.view = p.view := by
  unfold Page.view Page.hydrate
  split
  · rfl
  · rfl

lemma storage_hydrate (p : Page) : p.hydrate.storage = p.storage := by
  unfold Page.hydrate
  split <;> rfl

lemma hydrated_hydrate (p : Page) : p.hydrate.hydrated = true := by
  unfold Page.hydrate
  split
  · next h => exact h
  · rfl

lemma consistent_new : Consistent {} [] where
  shows := fun _ => ⟨.empty, shows_empty, enumerates_empty⟩
  stored := rfl

lemma Consistent.hydrate {p : Page} {es : List Event} (h : Consistent p es) :
    Consistent p.hydrate es where
  shows := by
    rw [view_hydrate]
    exact h.shows
  stored := by
    rw [view_hydrate, storage_hydrate]
    exact h.stored

lemma read_write {own : NamespaceState} (h : 0 < own.next) : own.write.read = own := by
  have hnext : max 1 own.next = own.next := max_eq_right h
  cases own
  simp only [NamespaceState.write, StoredNamespace.read, Option.getD_some, NamespaceState.mk.injEq,
    true_and]
  exact hnext

lemma seen_concat (ns : Namespace) (es : List Event) (e : Event) :
    seen ns (es ++ [e]) = Collect.collectStep (Event.remembers ns) (seen ns es) e := by
  rw [seen, seen, Collect.collect, Collect.collect, List.foldl_append]
  rfl

lemma seen_remember (ns : Namespace) (es : List Event) (actualId : ServerId) :
    seen ns (es ++ [.remember ns actualId]) =
      if actualId.text ∈ seen ns es then seen ns es else seen ns es ++ [actualId.text] := by
  rw [seen_concat, Collect.collectStep, Event.remembers, if_pos rfl]

lemma seen_of_other {ns : Namespace} {e : Event} (h : e.remembers ns = none) (es : List Event) :
    seen ns (es ++ [e]) = seen ns es := by
  rw [seen_concat, Collect.collectStep, h]

lemma rememberLegacyId_of_some {p : Page} {ns : Namespace} {ids : IdMap}
    (h : Shows (p.view ns) ids) {actualId : RowId} {existing : ℕ}
    (hid : ids.actualToLegacy actualId = some existing) :
    rememberLegacyId p ns actualId = (p.hydrate, existing) := by
  have hpos := (ids.inRange actualId existing hid).1
  have hown : ((p.hydrate.store ns).actualToLegacy actualId).filter (fun n => decide (n ≠ 0)) =
      some existing := by
    rw [← Page.view, h.actualToLegacy, hid]
    simp [Nat.pos_iff_ne_zero.mp hpos]
  simp only [rememberLegacyId, hown]

lemma rememberLegacyId_of_none {p : Page} {ns : Namespace} {ids : IdMap}
    (h : Shows (p.view ns) ids) {actualId : RowId} (hid : ids.actualToLegacy actualId = none) :
    rememberLegacyId p ns actualId =
      (Page.persist
        { store := Function.update p.view ns ((p.view ns).assign actualId)
          hydrated := true }, ids.next) := by
  have hown : ((p.hydrate.store ns).actualToLegacy actualId).filter (fun n => decide (n ≠ 0)) =
      none := by
    rw [← Page.view, h.actualToLegacy, hid]
    rfl
  simp only [rememberLegacyId, hown, Page.persist, hydrated_hydrate]
  rw [← h.next]
  rfl

lemma view_reload_persist {p : Page} (h : ∀ ns, 0 < (p.store ns).next) :
    ({ storage := p.persist.storage } : Page).view = p.store := by
  funext ns
  exact read_write (h ns)

lemma Shows.next_pos {own : NamespaceState} {ids : IdMap} (h : Shows own ids) : 0 < own.next := by
  rw [h.next]
  exact ids.next_pos

lemma rememberLegacyId_shows {p : Page} {ns : Namespace} {ids : IdMap}
    (h : Shows (p.view ns) ids) (actualId : RowId) :
    (rememberLegacyId p ns actualId).2 = (Client.rememberLegacyId ids actualId).2 ∧
      Shows ((rememberLegacyId p ns actualId).1.view ns)
        (Client.rememberLegacyId ids actualId).1 := by
  cases hid : ids.actualToLegacy actualId with
  | some existing =>
    rw [rememberLegacyId_of_some h hid, Client.rememberLegacyId_of_some hid, view_hydrate]
    exact ⟨rfl, h⟩
  | none =>
    rw [rememberLegacyId_of_none h hid, Client.rememberLegacyId_of_none hid]
    refine ⟨rfl, ?_⟩
    have hassign := h.assign hid
    rw [← Function.update_self ns ((p.view ns).assign actualId) p.view] at hassign
    exact hassign

lemma Consistent.remember {p : Page} {es : List Event} (h : Consistent p es) (ns : Namespace)
    (actualId : ServerId) :
    Consistent (rememberLegacyId p ns actualId.text).1 (es ++ [.remember ns actualId]) := by
  obtain ⟨ids, hshows, hseen⟩ := h.shows ns
  have hother : ∀ ns', ns ≠ ns' →
      seen ns' (es ++ [.remember ns actualId]) = seen ns' es := by
    intro ns' hne
    have hnone : (Event.remember ns actualId).remembers ns' = none := if_neg hne
    exact seen_of_other hnone es
  cases hid : ids.actualToLegacy actualId.text with
  | some existing =>
    have hmem : actualId.text ∈ seen ns es := by
      rw [hseen.mem_iff, hid, Option.isSome_some]
    have hsame : ∀ ns', seen ns' (es ++ [.remember ns actualId]) = seen ns' es := by
      intro ns'
      by_cases hne : ns = ns'
      · subst hne
        rw [seen_remember, if_pos hmem]
      · exact hother ns' hne
    rw [rememberLegacyId_of_some hshows hid]
    refine ⟨fun ns' => ?_, h.hydrate.stored⟩
    rw [hsame]
    exact h.hydrate.shows ns'
  | none =>
    have hnew : actualId.text ∉ seen ns es := by
      rw [hseen.mem_iff, hid]
      exact Bool.false_ne_true
    rw [rememberLegacyId_of_none hshows hid]
    have hshows' : ∀ ns', ∃ ids',
        Shows (Function.update p.view ns ((p.view ns).assign actualId.text) ns') ids' ∧
          Enumerates ids' (seen ns' (es ++ [.remember ns actualId])) := by
      intro ns'
      by_cases hne : ns = ns'
      · subst hne
        rw [Function.update_self, seen_remember, if_neg hnew]
        exact ⟨ids.assign actualId.text hid, hshows.assign hid, hseen.assign hid⟩
      · rw [Function.update_of_ne (Ne.symm hne), hother ns' hne]
        exact h.shows ns'
    refine ⟨hshows', view_reload_persist fun ns' => ?_⟩
    obtain ⟨_, hids, -⟩ := hshows' ns'
    exact hids.next_pos

lemma consistent_step {p : Page} {es : List Event} (h : Consistent p es) (e : Event) :
    Consistent (step p e) (es ++ [e]) := by
  cases e with
  | remember ns actualId => exact h.remember ns actualId
  | resolve ns legacyId =>
    have hpage : (resolveActualId p ns legacyId).1 = p.hydrate := by
      unfold resolveActualId
      split
      · rfl
      · rfl
    rw [step, hpage]
    refine ⟨fun ns' => ?_, h.hydrate.stored⟩
    rw [seen_of_other rfl]
    exact h.hydrate.shows ns'
  | reload =>
    refine ⟨fun ns' => ?_, rfl⟩
    rw [seen_of_other rfl, step, h.stored]
    exact h.shows ns'

/-- Every run. -/
theorem consistent_after (es : List Event) : Consistent (after es) es := by
  induction es using List.reverseRecOn with
  | nil => exact consistent_new
  | append_singleton es e ih =>
    rw [after, List.foldl_append]
    exact consistent_step ih e

/-- The map that has been asked to remember the ids of one namespace, and nothing else. -/
def mapped (ns : Namespace) (es : List Event) : IdMap :=
  (es.filterMap (Event.remembers ns)).foldl
    (fun ids actualId => (Client.rememberLegacyId ids actualId).1) .empty

lemma view_remember_of_ne {p : Page} {ns ns' : Namespace} {ids : IdMap} (hne : ns ≠ ns')
    (h : Shows (p.view ns') ids) (actualId : RowId) :
    (rememberLegacyId p ns' actualId).1.view ns = p.view ns := by
  cases hid : ids.actualToLegacy actualId with
  | some existing => rw [rememberLegacyId_of_some h hid, view_hydrate]
  | none =>
    rw [rememberLegacyId_of_none h hid]
    show Function.update p.view ns' _ ns = p.view ns
    rw [Function.update_of_ne hne]

lemma shows_mapped (ns : Namespace) (es : List Event) :
    Shows ((after es).view ns) (mapped ns es) := by
  induction es using List.reverseRecOn with
  | nil => exact shows_empty
  | append_singleton es e ih =>
    rw [after, List.foldl_append, mapped, List.filterMap_append, List.foldl_append]
    show Shows ((step (after es) e).view ns) _
    cases e with
    | remember ns' actualId =>
      by_cases hns : ns' = ns
      · subst hns
        simpa [Event.remembers, mapped, step] using (rememberLegacyId_shows ih actualId.text).2
      · obtain ⟨ids, hids, -⟩ := (consistent_after es).shows ns'
        rw [step, view_remember_of_ne (Ne.symm hns) hids]
        simpa [Event.remembers, mapped, hns] using ih
    | resolve ns' legacyId =>
      have hpage : (resolveActualId (after es) ns' legacyId).1 = (after es).hydrate := by
        unfold resolveActualId
        split <;> rfl
      rw [step, hpage, view_hydrate]
      exact ih
    | reload =>
      rw [step, (consistent_after es).stored]
      exact ih

/-- Whatever other namespaces remember in between, and however often the page is reloaded, a
namespace numbers ids as one map does that remembers its ids alone. -/
theorem remember_eq_mapped (es : List Event) (ns : Namespace) (actualId : RowId) :
    Shows ((after es).view ns) (mapped ns es) ∧
      (rememberLegacyId (after es) ns actualId).2 =
        (Client.rememberLegacyId (mapped ns es) actualId).2 :=
  ⟨shows_mapped ns es, (rememberLegacyId_shows (shows_mapped ns es) actualId).1⟩

/-! ## Numbers keep their meaning -/

lemma seen_prefix (ns : Namespace) (es later : List Event) :
    seen ns es <+: seen ns (es ++ later) := by
  induction later using List.reverseRecOn with
  | nil => simp
  | append_singleton later e ih =>
    refine ih.trans ?_
    rw [← List.append_assoc, seen_concat, Collect.collectStep]
    split
    · exact List.prefix_rfl
    · split
      · exact List.prefix_rfl
      · exact List.prefix_append ..

lemma place_append {ns : Namespace} {es : List Event} {k : ℕ} {id : RowId}
    (h : (seen ns es)[k]? = some id) (later : List Event) :
    (seen ns (es ++ later))[k]? = some id := by
  obtain ⟨rest, hrest⟩ := seen_prefix ns es later
  obtain ⟨hk, -⟩ := List.getElem?_eq_some_iff.mp h
  rw [← hrest, List.getElem?_append_left hk, h]

lemma exists_place (es : List Event) (ns : Namespace) (actualId : ServerId) :
    ∃ k, (rememberLegacyId (after es) ns actualId.text).2 = k + 1 ∧
      (seen ns (es ++ [.remember ns actualId]))[k]? = some actualId.text := by
  obtain ⟨ids, hshows, hseen⟩ := (consistent_after es).shows ns
  rw [seen_remember]
  cases hid : ids.actualToLegacy actualId.text with
  | some existing =>
    obtain ⟨k, rfl⟩ := Nat.exists_eq_add_of_lt (ids.inRange _ _ hid).1
    rw [Nat.zero_add] at hid
    refine ⟨k, by rw [rememberLegacyId_of_some hshows hid], ?_⟩
    rw [if_pos (hseen.mem_iff.mpr (hid ▸ rfl)), ← hseen.legacyToActual, ← ids.linked, hid]
  | none =>
    have hnew : actualId.text ∉ seen ns es := by
      rw [hseen.mem_iff, hid]
      exact Bool.false_ne_true
    refine ⟨(seen ns es).length, ?_, ?_⟩
    · rw [rememberLegacyId_of_none hshows hid, hseen.next]
    · rw [if_neg hnew, List.getElem?_concat_length]

lemma lookups_of_place {es : List Event} {ns : Namespace} {k : ℕ} {id : RowId}
    (h : (seen ns es)[k]? = some id) :
    ((after es).view ns).legacyToActual (toString (k + 1)) = some id ∧
      (rememberLegacyId (after es) ns id).2 = k + 1 := by
  obtain ⟨ids, hshows, hseen⟩ := (consistent_after es).shows ns
  have hactual : ids.legacyToActual (k + 1) = some id := by rw [hseen.legacyToActual, h]
  refine ⟨by rw [hshows.legacyToActual, hactual], ?_⟩
  rw [rememberLegacyId_of_some hshows ((ids.linked _ _).mpr hactual)]

lemma resolveActualId_of_numeral {p : Page} {ns : Namespace} {legacyId : LegacyId} {n : ℕ}
    {id : RowId} (hactual : legacyId.isActual = false) (htext : legacyId.toString = toString n)
    (h : (p.view ns).legacyToActual (toString n) = some id) :
    (resolveActualId p ns legacyId).2 = id := by
  have hview : p.hydrate.store ns = p.view ns := rfl
  simp only [resolveActualId, hactual, htext, hview, h, Bool.false_eq_true, if_false,
    Option.getD_some]

/-- Over any insertions, lookups and reloads, the numbers of a namespace are one to one with the ids
seen in it, and an id of the server stands for itself.  A number that is given is resolved to its id
from then on, as a number or as text, and is given to that id only. -/
theorem legacyIds_bijective (es : List Event) :
    (∀ ns, Numbered ((after es).view ns) (seen ns es)) ∧
      (∀ ns (id : ServerId), (resolveActualId (after es) ns (.string id.text)).2 = id.text) ∧
      ∀ ns (id : ServerId) (later : List Event),
        let n := (rememberLegacyId (after es) ns id.text).2
        let p := after (es ++ .remember ns id :: later)
        (resolveActualId p ns (.number (toString n))).2 = id.text ∧
          (resolveActualId p ns (.string (toString n))).2 = id.text ∧
          (rememberLegacyId p ns id.text).2 = n ∧
          ∀ other : ServerId, other.text ≠ id.text → (rememberLegacyId p ns other.text).2 ≠ n := by
  refine ⟨fun ns => ?_, fun ns id => ?_, fun ns id later => ?_⟩
  · obtain ⟨ids, hshows, hseen⟩ := (consistent_after es).shows ns
    exact hshows.numbered hseen
  · have hletter : (LegacyId.string id.text).isActual = true := hasLetter_of_isUuid id.isUuid
    rw [resolveActualId, if_pos hletter]
    rfl
  · obtain ⟨k, hk, hplace⟩ := exists_place es ns id
    have hlist : es ++ .remember ns id :: later = (es ++ [.remember ns id]) ++ later := by
      rw [List.append_assoc, List.singleton_append]
    have hlater : (seen ns (es ++ .remember ns id :: later))[k]? = some id.text := by
      rw [hlist]
      exact place_append hplace later
    obtain ⟨hactual, hlegacy⟩ := lookups_of_place hlater
    intro n p
    have hn : n = k + 1 := hk
    rw [hn]
    refine ⟨resolveActualId_of_numeral rfl rfl hactual,
      resolveActualId_of_numeral (hasLetter_toString _) rfl hactual, hlegacy, ?_⟩
    intro other hne heq
    obtain ⟨k', hk', hplace'⟩ := exists_place (es ++ .remember ns id :: later) ns other
    obtain rfl : k' = k := Nat.succ.inj (hk'.symm.trans heq)
    have hsame := place_append hlater [.remember ns other]
    exact hne (Option.some.inj (hplace'.symm.trans hsame))

end CocoonSit.Client.LegacyIds
