import CocoonSit.Lib.Run
import CocoonSit.Model.Queries
import CocoonSit.Security.Authorization

/-!
# Characters and their access lists

Whether a character is public is a field of its settings.  The access checks do not read the field:
a public character has an entry for all authenticated users in its access list, which the service
brings in line with the field whenever it writes the character.  Entries are also added and deleted
one by one.
-/

namespace CocoonSit

open Table

/-! ## Rows -/

/-- `characters`, with what the service writes. -/
structure CharacterRow extends Character where
  name : String
  promptSummary : String := ""
  settingsJson : JsonDict := .empty

/-- `character_acl`, with its primary key. -/
structure CharacterAclRow extends CharacterAcl where
  id : RowId

instance : Keyed CharacterRow RowId := ⟨fun character => character.id⟩
instance : Keyed CharacterAclRow RowId := ⟨CharacterAclRow.id⟩

@[simp] lemma key_characterRow (r : CharacterRow) : key r = r.id := rfl

@[simp] lemma key_characterAclRow (r : CharacterAclRow) : key r = r.id := rfl

structure Catalog where
  characters : List CharacterRow := []
  acls : List CharacterAclRow := []

/-- The accounts, with the access lists of the catalog. -/
def Catalog.within (s : Catalog) (accounts : Accounts) : Accounts :=
  { accounts with characterAcls := s.acls.map CharacterAclRow.toCharacterAcl }

/-- `visibility == "public"`.  The `str` of a value that is no string is another text, and an empty
or missing value is `private`. -/
def isPublic (settingsJson : JsonDict) : Bool :=
  match settingsJson "visibility" with
  | some (.str visibility) => (strip visibility).map lowerChar = "public"
  | _ => false

/-! ## The service -/

def AUTHENTICATED_ALL : String := "AUTHENTICATED_ALL"

/-- The rows that the query of `_sync_public_visibility_acl` selects. -/
def publicAcls (acls : List CharacterAclRow) (characterId : RowId) : List CharacterAclRow :=
  acls.filter fun acl => acl.characterId = characterId && acl.subjectType = AUTHENTICATED_ALL

/-- The entry of a public character. -/
def publicAcl (newId : NewId) (acls : List CharacterAclRow) (characterId : RowId) :
    CharacterAclRow where
  id := newId.draw (acls.map key)
  characterId := characterId
  subjectType := AUTHENTICATED_ALL
  subjectId := "*"
  canRead := true
  canUse := false

def syncPublicVisibilityAcl (newId : NewId) (choice : RowChoice CharacterAclRow)
    (acls : List CharacterAclRow) (character : CharacterRow) : List CharacterAclRow :=
  match isPublic character.settingsJson, choice.pick (publicAcls acls character.id) with
  | true, some existingAcl =>
    update acls existingAcl.id fun acl => { acl with canRead := true, canUse := false }
  | true, none => acls ++ [publicAcl newId acls character.id]
  | false, some existingAcl => acls.filter fun acl => acl.id ≠ existingAcl.id
  | false, none => acls

structure CharacterCreate where
  name : String
  promptSummary : String := ""
  settingsJson : JsonDict := .empty

/-- `CharacterUpdate`; a null changes nothing. -/
structure CharacterUpdate where
  name : Option String := none
  promptSummary : Option String := none
  settingsJson : Option JsonDict := none

structure CharacterAclCreate where
  subjectType : String
  subjectId : RowId
  canRead : Bool := true
  canUse : Bool := true

def CharacterUpdate.applyTo (payload : CharacterUpdate) (character : CharacterRow) : CharacterRow :=
  { character with
    name := payload.name.getD character.name
    promptSummary := payload.promptSummary.getD character.promptSummary
    settingsJson := payload.settingsJson.getD character.settingsJson }

def characterNotFound : HttpError := ⟨404, "Character not found"⟩

section Service

variable (newId : NewId) (choice : RowChoice CharacterAclRow) (s : Catalog)

def newCharacter (payload : CharacterCreate) (user : User) : CharacterRow where
  id := newId.draw (s.characters.map key)
  name := payload.name
  promptSummary := payload.promptSummary
  settingsJson := payload.settingsJson
  createdByUserId := some user.id

def createCharacter (payload : CharacterCreate) (user : User) : Catalog :=
  let character := newCharacter newId s payload user
  { characters := s.characters ++ [character]
    acls := syncPublicVisibilityAcl newId choice s.acls character }

def updateCharacter (characterId : RowId) (payload : CharacterUpdate) : Except HttpError Catalog :=
  match get s.characters characterId with
  | none => .error characterNotFound
  | some character => .ok
      { characters := update s.characters characterId payload.applyTo
        acls := syncPublicVisibilityAcl newId choice s.acls (payload.applyTo character) }

/-- The row that `create_acl` adds. -/
def newAcl (characterId : RowId) (payload : CharacterAclCreate) : CharacterAclRow where
  id := newId.draw (s.acls.map key)
  characterId := characterId
  subjectType := normalizeSubjectType payload.subjectType
  subjectId := payload.subjectId
  canRead := payload.canRead
  canUse := payload.canUse

def createAcl (characterId : RowId) (payload : CharacterAclCreate) : Except HttpError Catalog :=
  match get s.characters characterId with
  | none => .error characterNotFound
  | some _ => .ok
      { s with acls := s.acls ++ [newAcl newId s characterId payload] }

/-- `delete_character`; `linkedCocoon` is whether a cocoon uses it. -/
def deleteCharacter (characterId : RowId) (linkedCocoon : Bool) : Except HttpError Catalog :=
  match get s.characters characterId with
  | none => .error characterNotFound
  | some _ =>
    if linkedCocoon then .error ⟨409, "Character is still used by an existing cocoon"⟩
    else .ok
      { characters := s.characters.filter fun character => character.id ≠ characterId
        acls := s.acls.filter fun acl => acl.characterId ≠ characterId }

def deleteAcl (characterId aclId : RowId) : Except HttpError Catalog :=
  match get s.acls aclId with
  | none => .error ⟨404, "Character ACL not found"⟩
  | some acl =>
    if acl.characterId ≠ characterId then .error ⟨404, "Character ACL not found"⟩
    else .ok { s with acls := s.acls.filter fun acl => acl.id ≠ aclId }

end Service

/-! ## Requests -/

/-- A request that gets past the guards of its route; each query that has no order makes its own
choice. -/
inductive CharacterEvent where
  | create (payload : CharacterCreate) (user : User) (choice : RowChoice CharacterAclRow)
  | update (characterId : RowId) (payload : CharacterUpdate) (choice : RowChoice CharacterAclRow)
  | delete (characterId : RowId) (linkedCocoon : Bool)
  | createAcl (characterId : RowId) (payload : CharacterAclCreate)
  | deleteAcl (characterId aclId : RowId)

/-- A request that fails changes nothing. -/
def catalogStep (newId : NewId) (s : Catalog) : CharacterEvent → Option Catalog
  | .create payload user choice => some (createCharacter newId choice s payload user)
  | .update characterId payload choice =>
    some ((updateCharacter newId choice s characterId payload).toOption.getD s)
  | .delete characterId linkedCocoon =>
    some ((deleteCharacter s characterId linkedCocoon).toOption.getD s)
  | .createAcl characterId payload =>
    some ((createAcl newId s characterId payload).toOption.getD s)
  | .deleteAcl characterId aclId => some ((deleteAcl s characterId aclId).toOption.getD s)

/-! ## Subject types -/

lemma isSpace_of_letter {c : Char} (h : (65 ≤ c.toNat ∧ c.toNat ≤ 90) ∨
    97 ≤ c.toNat ∧ c.toNat ≤ 122) : isSpace c = false := by
  simp only [isSpace, Bool.or_eq_false_iff, Bool.and_eq_false_iff, decide_eq_false_iff_not,
    beq_eq_false_iff_ne]
  omega

lemma toNat_toUpper {c : Char} (h : 97 ≤ c.toNat ∧ c.toNat ≤ 122) :
    c.toUpper.toNat = c.toNat - 32 := by
  unfold Char.toUpper
  rw [dif_pos (show 'a'.val ≤ c.val ∧ c.val ≤ 'z'.val from h)]
  change (c.val + ('A'.val - 'a'.val)).toNat = c.val.toNat - 32
  rw [UInt32.toNat_add]
  have hshift : ('A'.val - 'a'.val).toNat = 2 ^ 32 - 32 := by decide
  have hle : 97 ≤ c.val.toNat := h.1
  have hge : c.val.toNat ≤ 122 := h.2
  omega

lemma toUpper_of_not {c : Char} (h : ¬ (97 ≤ c.toNat ∧ c.toNat ≤ 122)) : c.toUpper = c := by
  unfold Char.toUpper
  exact dif_neg h

lemma isSpace_upperChar (c : Char) : isSpace (upperChar c) = isSpace c := by
  unfold upperChar
  split
  · subst_vars
    decide
  split
  · subst_vars
    decide
  by_cases h : 97 ≤ c.toNat ∧ c.toNat ≤ 122
  · rw [isSpace_of_letter (.inr h), isSpace_of_letter]
    rw [toNat_toUpper h]
    omega
  · rw [toUpper_of_not h]

lemma upperChar_upperChar (c : Char) : upperChar (upperChar c) = upperChar c := by
  by_cases hi : c = 'ı'
  · subst hi
    decide
  by_cases hs : c = 'ſ'
  · subst hs
    decide
  have hupper : upperChar c = c.toUpper := by
    rw [upperChar, if_neg hi, if_neg hs]
  by_cases h : 97 ≤ c.toNat ∧ c.toNat ≤ 122
  · -- a capital letter is none of those that change
    have hletter := toNat_toUpper h
    have hne : ∀ d : Char, 122 < d.toNat → c.toUpper ≠ d := by
      rintro d hd rfl
      omega
    rw [hupper, upperChar, if_neg (hne 'ı' (by decide)), if_neg (hne 'ſ' (by decide)),
      toUpper_of_not (by omega)]
  · have hsame : upperChar c = c := hupper.trans (toUpper_of_not h)
    rw [hsame, hsame]

/-- Nothing is left to strip. -/
def Stripped (cs : List Char) : Prop :=
  cs.dropWhile isSpace = cs ∧ cs.reverse.dropWhile isSpace = cs.reverse

lemma strip_of_stripped {cs : List Char} (h : Stripped cs) :
    strip (String.ofList cs) = String.ofList cs := by
  rw [strip, String.toList_ofList, h.1, h.2, List.reverse_reverse]

lemma stripped_strip (s : String) : Stripped (strip s).toList := by
  rw [strip, String.toList_ofList]
  refine ⟨List.dropWhile_eq_self_iff.mpr fun hlength => ?_, ?_⟩
  · -- the first character that is left was not dropped in front
    have hpre : ((s.toList.dropWhile isSpace).reverse.dropWhile isSpace).reverse <+:
        s.toList.dropWhile isSpace := List.rdropWhile_prefix isSpace _
    rw [hpre.getElem hlength]
    exact List.dropWhile_get_zero_not isSpace s.toList _
  · rw [List.reverse_reverse, List.dropWhile_idempotent]

lemma stripped_map {cs : List Char} (h : Stripped cs) : Stripped (cs.map upperChar) := by
  have hdrop : ∀ l : List Char, (l.map upperChar).dropWhile isSpace =
      (l.dropWhile isSpace).map upperChar := by
    intro l
    rw [List.dropWhile_map]
    refine congrArg _ (congrArg (List.dropWhile · l) (funext isSpace_upperChar))
  exact ⟨by rw [hdrop, h.1], by rw [← List.map_reverse, hdrop, h.2]⟩

lemma normalizeSubjectType_normalizeSubjectType (subjectType : String) :
    normalizeSubjectType (normalizeSubjectType subjectType) = normalizeSubjectType subjectType := by
  have hlist : normalizeSubjectType subjectType =
      String.ofList ((strip subjectType).toList.map upperChar) := String.map_eq_internal
  have hstripped := stripped_map (stripped_strip subjectType)
  calc normalizeSubjectType (normalizeSubjectType subjectType)
      = (strip (String.ofList ((strip subjectType).toList.map upperChar))).map upperChar := by
        rw [hlist, normalizeSubjectType]
    _ = (String.ofList ((strip subjectType).toList.map upperChar)).map upperChar := by
        rw [strip_of_stripped hstripped]
    _ = String.ofList ((strip subjectType).toList.map upperChar) := by
        rw [String.map_eq_internal, String.toList_ofList, List.map_map]
        exact congrArg _ (List.map_congr_left fun c _ => upperChar_upperChar c)
    _ = normalizeSubjectType subjectType := hlist.symm

end CocoonSit
