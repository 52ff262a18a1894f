import CocoonSit.Plugins.ConfigSchema
import Mathlib.Logic.Relation

/-!
# What the schemas of plugin settings mean

The validity of a value is stated without the validator: every part of the value meets the subschema
that governs it.  JSON Schema and the validator read some keywords differently, and a `Dialect`
names what they differ in.  The validator reads `required`, `properties` and `items` only under
their types, takes no float for an integer, and lets an empty `enum` and a list of types restrict
nothing.  It also compares as Python does, to which a truth value is a number.
-/

namespace CocoonSit.JsonSchema

/-! ## Equality -/

mutual

/-- JSON's equality: a truth value is no number. -/
def jsonEq : ConfigValue → ConfigValue → Bool
  | .null, .null => true
  | .bool a, .bool b => a = b
  | .int a, .int b => a = b
  | .int a, .float b => a = b
  | .float a, .int b => a = b
  | .float a, .float b => a = b
  | .str a, .str b => a = b
  | .list xs, .list ys => jsonEqList xs ys
  | .dict xs, .dict ys => xs.length = ys.length && jsonEqItems xs ys
  | _, _ => false

def jsonEqList : List ConfigValue → List ConfigValue → Bool
  | [], [] => true
  | x :: xs, y :: ys => jsonEq x y && jsonEqList xs ys
  | _, _ => false

def jsonEqItem : String × ConfigValue → ConfigDict → Bool
  | (key, value), ys => match ys.lookup key with
    | some value' => jsonEq value value'
    | none => false

def jsonEqItems : ConfigDict → ConfigDict → Bool
  | [], _ => true
  | x :: xs, ys => jsonEqItem x ys && jsonEqItems xs ys

end

example : jsonEq (.list [.int 1]) (.list [.float 1]) = true := by decide +kernel

example : jsonEq (.bool true) (.int 1) = false := by decide +kernel

mutual

lemma pyEq_of_jsonEq : ∀ a b : ConfigValue, jsonEq a b = true → pyEq a b = true
  | .null, b, h => by cases b <;> simp_all [jsonEq, pyEq]
  | .bool a, b, h => by cases b <;> simp_all [jsonEq, pyEq, numberEq, PromptValue.asNumber]
  | .int a, b, h => by cases b <;> simp_all [jsonEq, pyEq, numberEq, PromptValue.asNumber]
  | .float a, b, h => by cases b <;> simp_all [jsonEq, pyEq, numberEq, PromptValue.asNumber]
  | .str a, b, h => by cases b <;> simp_all [jsonEq, pyEq]
  | .list xs, b, h => by
      cases b with
      | list ys =>
        rw [jsonEq] at h
        rw [pyEq]
        exact pyEqList_of_jsonEqList xs ys h
      | _ => simp [jsonEq] at h
  | .dict xs, b, h => by
      cases b with
      | dict ys =>
        rw [jsonEq, Bool.and_eq_true] at h
        rw [pyEq, Bool.and_eq_true]
        exact ⟨h.1, pyEqItems_of_jsonEqItems xs ys h.2⟩
      | _ => simp [jsonEq] at h

lemma pyEqList_of_jsonEqList :
    ∀ xs ys : List ConfigValue, jsonEqList xs ys = true → pyEqList xs ys = true
  | [], [], _ => by rw [pyEqList]
  | x :: xs, y :: ys, h => by
      rw [jsonEqList, Bool.and_eq_true] at h
      rw [pyEqList, Bool.and_eq_true]
      exact ⟨pyEq_of_jsonEq x y h.1, pyEqList_of_jsonEqList xs ys h.2⟩
  | [], _ :: _, h => by simp [jsonEqList] at h
  | _ :: _, [], h => by simp [jsonEqList] at h

lemma pyEqItem_of_jsonEqItem :
    ∀ (x : String × ConfigValue) (ys : ConfigDict), jsonEqItem x ys = true → pyEqItem x ys = true
  | (key, value), ys, h => by
      rw [jsonEqItem] at h
      rw [pyEqItem]
      cases hlookup : ys.lookup key with
      | none =>
        rw [hlookup] at h
        cases h
      | some value' =>
        rw [hlookup] at h
        exact pyEq_of_jsonEq value value' h

lemma pyEqItems_of_jsonEqItems :
    ∀ xs ys : ConfigDict, jsonEqItems xs ys = true → pyEqItems xs ys = true
  | [], _, _ => by rw [pyEqItems]
  | x :: xs, ys, h => by
      rw [jsonEqItems, Bool.and_eq_true] at h
      rw [pyEqItems, Bool.and_eq_true]
      exact ⟨pyEqItem_of_jsonEqItem x ys h.1, pyEqItems_of_jsonEqItems xs ys h.2⟩

end

/-! ## Types -/

/-- The names of the types. -/
inductive JsonType where
  | object | array | string | boolean | integer | number | null
deriving DecidableEq, Repr

def JsonType.name : JsonType → String
  | .object => "object"
  | .array => "array"
  | .string => "string"
  | .boolean => "boolean"
  | .integer => "integer"
  | .number => "number"
  | .null => "null"

/-- What JSON Schema and the validator differ in. -/
structure Dialect where
  /-- The equality by which `enum` compares. -/
  same : ConfigValue → ConfigValue → Bool
  /-- Keywords apply to values of their kind also when `type` does not name it. -/
  untypedKeywords : Bool
  /-- A float without a fraction is an integer. -/
  integralFloats : Bool
  /-- An empty `enum` admits nothing. -/
  emptyEnums : Bool
  /-- `type` may be a list of types. -/
  typeUnions : Bool

/-- JSON Schema. -/
def Dialect.standard : Dialect where
  same := jsonEq
  untypedKeywords := true
  integralFloats := true
  emptyEnums := true
  typeUnions := true

/-- JSON Schema as the validator's guards narrow it. -/
def Dialect.narrowed : Dialect where
  same := jsonEq
  untypedKeywords := false
  integralFloats := false
  emptyEnums := false
  typeUnions := false

/-- The same with Python's equality. -/
def Dialect.python : Dialect := { Dialect.narrowed with same := pyEq }

/-- A value has a type. -/
def JsonType.Has (d : Dialect) : JsonType → ConfigValue → Prop
  | .object, .dict _ => True
  | .array, .list _ => True
  | .string, .str _ => True
  | .boolean, .bool _ => True
  | .integer, .int _ => True
  | .integer, .float value => d.integralFloats = true ∧ value.den = 1
  | .number, .int _ => True
  | .number, .float _ => True
  | .null, .null => True
  | _, _ => False

/-! ## Validity -/

section Validity

variable (pyStr : ConfigValue → String) (d : Dialect)

/-- The keywords of a type apply. -/
def Reads (schema : ConfigDict) (type : JsonType) : Prop :=
  d.untypedKeywords = true ∨ schema.lookup "type" = some (.str type.name)

/-- `enum`. -/
def MeetsEnum (schema : ConfigDict) (value : ConfigValue) : Prop :=
  ∀ values, schema.lookup "enum" = some (.list values) → d.emptyEnums = true ∨ values ≠ [] →
    ∃ entry ∈ values, d.same value entry = true

/-- `type`; what names no type restricts nothing. -/
structure MeetsType (schema : ConfigDict) (value : ConfigValue) : Prop where
  named : ∀ type : JsonType, schema.lookup "type" = some (.str type.name) → type.Has d value
  union : d.typeUnions = true → ∀ names, schema.lookup "type" = some (.list names) →
    ∃ type : JsonType, .str type.name ∈ names ∧ type.Has d value

/-- `required`. -/
def MeetsRequired (schema : ConfigDict) (value : ConfigValue) : Prop :=
  Reads d schema .object → ∀ fields items, value = .dict fields →
    schema.lookup "required" = some (.list items) →
      ∀ item ∈ items, (fields.lookup (toText pyStr item)).isSome

/-- A value meets the keywords of a schema that are about the value itself. -/
structure Meets (part : ConfigDict × ConfigValue) : Prop where
  enum : MeetsEnum d part.1 part.2
  type : MeetsType d part.1 part.2
  required : MeetsRequired pyStr d part.1 part.2

/-- A schema governs a value, and with it a part of the value by one of its subschemas. -/
inductive Part : ConfigDict × ConfigValue → ConfigDict × ConfigValue → Prop
  | property {schema properties fields sub : ConfigDict} {key : String} {item : ConfigValue}
      (hreads : Reads d schema .object)
      (hproperties : schema.lookup "properties" = some (.dict properties))
      (hsub : (key, .dict sub) ∈ properties) (hitem : fields.lookup key = some item) :
      Part (schema, .dict fields) (sub, item)
  | item {schema itemSchema : ConfigDict} {items : List ConfigValue} {item : ConfigValue}
      (hreads : Reads d schema .array)
      (hitems : schema.lookup "items" = some (.dict itemSchema)) (hitem : item ∈ items) :
      Part (schema, .list items) (itemSchema, item)

/-- A value is valid under a schema: it and all its parts meet what governs them. -/
def Valid (schema : ConfigDict) (value : ConfigValue) : Prop :=
  ∀ part, Relation.ReflTransGen (Part d) (schema, value) part → Meets pyStr d part

end Validity

variable {pyStr : ConfigValue → String} {d : Dialect} {schema : ConfigDict} {value : ConfigValue}

lemma valid_iff :
    Valid pyStr d schema value ↔
      Meets pyStr d (schema, value) ∧
        ∀ part, Part d (schema, value) part → Valid pyStr d part.1 part.2 := by
  constructor
  · intro h
    exact ⟨h _ .refl, fun part hpart part' hreach => h part' (.head hpart hreach)⟩
  · rintro ⟨hmeets, hparts⟩ part hreach
    rcases hreach.cases_head with rfl | ⟨child, hchild, hreach⟩
    · exact hmeets
    · exact hparts child hchild part hreach

lemma forall_part_dict {fields : ConfigDict} (P : ConfigDict × ConfigValue → Prop) :
    (∀ part, Part d (schema, .dict fields) part → P part) ↔
      (Reads d schema .object → ∀ properties, schema.lookup "properties" = some (.dict properties) →
        ∀ key sub, (key, .dict sub) ∈ properties → ∀ item, fields.lookup key = some item →
          P (sub, item)) := by
  constructor
  · intro h hreads properties hproperties key sub hsub item hitem
    exact h _ (.property hreads hproperties hsub hitem)
  · rintro h _ (⟨hreads, hproperties, hsub, hitem⟩)
    exact h hreads _ hproperties _ _ hsub _ hitem

lemma forall_part_list {items : List ConfigValue} (P : ConfigDict × ConfigValue → Prop) :
    (∀ part, Part d (schema, .list items) part → P part) ↔
      (Reads d schema .array → ∀ itemSchema, schema.lookup "items" = some (.dict itemSchema) →
        ∀ item ∈ items, P (itemSchema, item)) := by
  constructor
  · intro h hreads itemSchema hitems item hitem
    exact h _ (.item hreads hitems hitem)
  · rintro h _ (_ | ⟨hreads, hitems, hitem⟩)
    exact h hreads _ hitems _ hitem

/-! ## The validator -/

lemma lookupItem_eq_iff {key : String} (hvalue : value ≠ .null) :
    lookupItem schema key = value ↔ schema.lookup key = some value := by
  unfold lookupItem
  cases schema.lookup key with
  | none => simp [hvalue.symm]
  | some value' => simp

lemma isOk_validateEnum_iff (location : String) :
    (validateEnum schema value location).isOk = true ↔ MeetsEnum .python schema value := by
  unfold validateEnum MeetsEnum
  split
  · rename_i values hvalues
    rw [lookupItem_eq_iff (by simp)] at hvalues
    rw [hvalues]
    by_cases hempty : values = []
    · simp [hempty, Dialect.python, Dialect.narrowed, Except.isOk, Except.toBool]
    · by_cases hany : values.any (pyEq value) = true
      · rw [if_neg (by simp [hany])]
        refine iff_of_true rfl fun values' hvalues' _ => ?_
        cases hvalues'
        exact List.any_eq_true.mp hany
      · rw [if_pos ⟨hempty, by simpa using hany⟩]
        refine iff_of_false (by simp [Except.isOk, Except.toBool]) fun h => hany ?_
        exact List.any_eq_true.mpr (h values rfl (.inr hempty))
  · rename_i hno
    refine iff_of_true rfl fun values hvalues _ => ?_
    exact absurd ((lookupItem_eq_iff (by simp)).mpr hvalues) (hno values)

lemma isOk_validateRequired_iff {fields : ConfigDict} (location : String) :
    (validateRequired pyStr schema fields location).isOk = true ↔
      ∀ items, schema.lookup "required" = some (.list items) →
        ∀ item ∈ items, (fields.lookup (toText pyStr item)).isSome := by
  unfold validateRequired
  split
  · rename_i items hitems
    rw [lookupItem_eq_iff (by simp)] at hitems
    rw [hitems, isOk_forM, List.all_eq_true]
    constructor
    · intro h items' hitems' item hitem
      cases hitems'
      have hone := h item hitem
      split at hone
      · assumption
      · cases hone
    · intro h item hitem
      rw [if_pos (h items rfl item hitem)]
      rfl
  · rename_i hno
    refine iff_of_true rfl fun items hitems _ _ => ?_
    exact absurd ((lookupItem_eq_iff (by simp)).mpr hitems) (hno items)

lemma JsonType.name_inj {type type' : JsonType} (h : type.name = type'.name) : type = type' := by
  cases type <;> cases type' <;> first | rfl | exact absurd h (by decide)

section Python

lemma reads_python_iff {type : JsonType} :
    Reads .python schema type ↔ schema.lookup "type" = some (.str type.name) := by
  simp [Reads, Dialect.python, Dialect.narrowed]

lemma reads_python_unique {type type' : JsonType} (h : schema.lookup "type" = some (.str type.name))
    (hreads : Reads .python schema type') : type' = type := by
  rw [reads_python_iff, h] at hreads
  exact JsonType.name_inj (PromptValue.str.inj (Option.some.inj hreads)).symm

lemma meetsType_python_iff (type : JsonType) (h : schema.lookup "type" = some (.str type.name)) :
    MeetsType .python schema value ↔ type.Has .python value := by
  constructor
  · intro hmeets
    exact hmeets.named type h
  · intro hhas
    refine { named := fun type' h' => ?_, union := fun hunions => by cases hunions }
    rwa [reads_python_unique h (reads_python_iff.mpr h')]

lemma valid_iff_of_unread (hobject : ¬ Reads d schema .object) (harray : ¬ Reads d schema .array) :
    Valid pyStr d schema value ↔ MeetsEnum d schema value ∧ MeetsType d schema value := by
  rw [valid_iff]
  constructor
  · rintro ⟨hmeets, -⟩
    exact ⟨hmeets.enum, hmeets.type⟩
  · rintro ⟨henum, htype⟩
    refine ⟨{ enum := henum, type := htype, required := fun h => absurd h hobject }, ?_⟩
    rintro _ (⟨hreads, -, -, -⟩ | ⟨hreads, -, -⟩)
    · exact absurd hreads hobject
    · exact absurd hreads harray

lemma valid_python_scalar {type : JsonType} (h : schema.lookup "type" = some (.str type.name))
    (hobject : type ≠ .object) (harray : type ≠ .array) :
    Valid pyStr .python schema value ↔
      MeetsEnum .python schema value ∧ type.Has .python value := by
  rw [valid_iff_of_unread (fun hreads => hobject (reads_python_unique h hreads).symm)
    (fun hreads => harray (reads_python_unique h hreads).symm), meetsType_python_iff type h]

lemma valid_python_untyped (h : ∀ type : JsonType, schema.lookup "type" ≠ some (.str type.name)) :
    Valid pyStr .python schema value ↔ MeetsEnum .python schema value := by
  rw [valid_iff_of_unread (fun hreads => h _ (reads_python_iff.mp hreads))
    (fun hreads => h _ (reads_python_iff.mp hreads))]
  refine and_iff_left ?_
  exact
    { named := fun type htype => absurd htype (h type)
      union := fun hunions => by cases hunions }

lemma valid_python_object {fields : ConfigDict} (h : schema.lookup "type" = some (.str "object")) :
    Valid pyStr .python schema (.dict fields) ↔
      MeetsEnum .python schema (.dict fields) ∧
        (∀ items, schema.lookup "required" = some (.list items) →
          ∀ item ∈ items, (fields.lookup (toText pyStr item)).isSome) ∧
        ∀ properties, schema.lookup "properties" = some (.dict properties) →
          ∀ key sub, (key, .dict sub) ∈ properties → ∀ item, fields.lookup key = some item →
            Valid pyStr .python sub item := by
  have hreads : Reads .python schema .object := reads_python_iff.mpr h
  rw [valid_iff, forall_part_dict]
  constructor
  · rintro ⟨hmeets, hparts⟩
    exact ⟨hmeets.enum, fun items => hmeets.required hreads fields items rfl, hparts hreads⟩
  · rintro ⟨henum, hrequired, hparts⟩
    refine ⟨{ enum := henum, type := ?_, required := ?_ }, fun _ => hparts⟩
    · exact (meetsType_python_iff .object h).mpr trivial
    · rintro - _ items ⟨⟩ hitems
      exact hrequired items hitems

lemma valid_python_array {items : List ConfigValue}
    (h : schema.lookup "type" = some (.str "array")) :
    Valid pyStr .python schema (.list items) ↔
      MeetsEnum .python schema (.list items) ∧
        ∀ itemSchema, schema.lookup "items" = some (.dict itemSchema) →
          ∀ item ∈ items, Valid pyStr .python itemSchema item := by
  have hreads : Reads .python schema .array := reads_python_iff.mpr h
  rw [valid_iff, forall_part_list]
  constructor
  · rintro ⟨hmeets, hparts⟩
    exact ⟨hmeets.enum, hparts hreads⟩
  · rintro ⟨henum, hparts⟩
    refine ⟨{ enum := henum, type := ?_, required := ?_ }, fun _ => hparts⟩
    · exact (meetsType_python_iff .array h).mpr trivial
    · rintro - fields items ⟨⟩

end Python

lemma returns_iff_valid (type : JsonType) (h : lookupItem schema "type" = .str type.name)
    (hobject : type ≠ .object) (harray : type ≠ .array) (hhas : type.Has .python value) :
    MeetsEnum .python schema value ∧ (Except.ok () : Except SchemaError Unit).isOk = true ↔
      Valid pyStr .python schema value := by
  rw [lookupItem_eq_iff (by simp)] at h
  rw [valid_python_scalar h hobject harray]
  exact and_congr_right fun _ => iff_of_true rfl hhas

lemma raises_iff_valid (type : JsonType) (error : SchemaError)
    (h : lookupItem schema "type" = .str type.name) (hhas : ¬ type.Has .python value) :
    MeetsEnum .python schema value ∧ (Except.error error : Except SchemaError Unit).isOk = true ↔
      Valid pyStr .python schema value := by
  rw [lookupItem_eq_iff (by simp)] at h
  refine iff_of_false (fun herror => by cases herror.2) fun hvalid => hhas ?_
  exact (meetsType_python_iff type h).mp (hvalid _ .refl).type

/-- The validator accepts what is valid with Python's equality. -/
theorem isOk_validate_iff (schema : ConfigDict) (value : ConfigValue) (location : String) :
    (validateJsonSchemaValue pyStr schema value location).isOk = true ↔
      Valid pyStr .python schema value := by
  fun_induction validateJsonSchemaValue pyStr schema value location with
  | case1 schema value location hempty =>
    rw [List.isEmpty_iff] at hempty
    subst hempty
    rw [valid_python_untyped (by simp)]
    exact iff_of_true rfl (by simp [MeetsEnum])
  | case2 schema value location hschema ihproperties ihitems =>
    rw [isOk_bind, Bool.and_eq_true, isOk_validateEnum_iff]
    split
    · -- an object
      rename_i fields hname
      rw [lookupItem_eq_iff (by simp)] at hname
      rw [valid_python_object hname, isOk_bind, Bool.and_eq_true, isOk_validateRequired_iff]
      refine and_congr_right fun _ => and_congr_right fun _ => ?_
      split
      · rename_i properties hproperties
        rw [hproperties, isOk_forM, List.all_eq_true]
        constructor
        · rintro h _ ⟨⟩ key sub hsub item hitem
          rw [← ihproperties properties hproperties key (.dict sub) hsub sub item rfl]
          have hone := h ⟨(key, .dict sub), hsub⟩ (List.mem_attach _ _)
          simpa only [hitem] using hone
        · rintro h ⟨⟨key, subSchema⟩, hmem⟩ -
          dsimp only
          split
          · rename_i sub item hmem _ hitem
            rw [ihproperties properties hproperties key _ hmem sub item rfl]
            exact h properties rfl key sub hmem item hitem
          · rfl
      · rename_i hno
        refine iff_of_true rfl fun properties hproperties => ?_
        exact absurd hproperties (hno properties)
    · rename_i v _ _ hname hno
      exact raises_iff_valid .object _ hname fun h => by
        cases v <;> first | exact h | exact hno _ rfl
    · -- an array
      rename_i items hname
      rw [lookupItem_eq_iff (by simp)] at hname
      rw [valid_python_array hname]
      refine and_congr_right fun _ => ?_
      split
      · rename_i itemSchema hitems
        rw [hitems, isOk_forM, List.all_eq_true]
        constructor
        · rintro h _ ⟨⟩ item hitem
          obtain ⟨index, hindex, rfl⟩ := List.mem_iff_getElem.mp hitem
          rw [← ihitems itemSchema hitems items[index] index]
          exact h (items[index], index) (List.mk_mem_zipIdx_iff_getElem?.mpr (by simp))
        · rintro h ⟨item, index⟩ hmem
          rw [ihitems itemSchema hitems item index]
          exact h itemSchema rfl item (List.fst_mem_of_mem_zipIdx hmem)
      · rename_i hno
        refine iff_of_true rfl fun itemSchema hitems => ?_
        exact absurd hitems (hno itemSchema)
    · rename_i v _ _ hname hno
      exact raises_iff_valid .array _ hname fun h => by
        cases v <;> first | exact h | exact hno _ rfl
    · rename_i hname
      exact returns_iff_valid .string hname (by decide) (by decide) trivial
    · rename_i v _ _ hname hno
      exact raises_iff_valid .string _ hname fun h => by
        cases v <;> first | exact h | exact hno _ rfl
    · rename_i hname
      exact returns_iff_valid .boolean hname (by decide) (by decide) trivial
    · rename_i v _ _ hname hno
      exact raises_iff_valid .boolean _ hname fun h => by
        cases v <;> first | exact h | exact hno _ rfl
    · rename_i hname
      exact returns_iff_valid .integer hname (by decide) (by decide) trivial
    · rename_i v _ _ hname hno
      exact raises_iff_valid .integer _ hname fun h => by
        cases v <;> first | exact h | exact hno _ rfl | cases h.1
    · rename_i hname
      exact returns_iff_valid .number hname (by decide) (by decide) trivial
    · rename_i hname
      exact returns_iff_valid .number hname (by decide) (by decide) trivial
    · rename_i v _ _ hname hint hfloat
      exact raises_iff_valid .number _ hname fun h => by
        cases v <;> first | exact h | exact hint _ rfl | exact hfloat _ rfl
    · rename_i hname
      exact returns_iff_valid .null hname (by decide) (by decide) trivial
    · rename_i v _ _ hname hno
      exact raises_iff_valid .null _ hname fun h => by
        cases v <;> first | exact h | exact hno rfl
    · -- no known type
      rename_i hobject harray hstring hboolean hinteger hnumber hnull _ _ _ _ _ _ _ _
      rw [valid_python_untyped]
      · exact and_iff_left rfl
      · intro type htype
        have hname := (lookupItem_eq_iff (by simp)).mpr htype
        cases type with
        | object => exact hobject hname
        | array => exact harray hname
        | string => exact hstring hname
        | boolean => exact hboolean hname
        | integer => exact hinteger hname
        | number => exact hnumber hname
        | null => exact hnull hname

/-! ## Two equalities -/

/-- Wherever the validator compares a part of the value with an entry of an `enum`, Python finds no
more equal than JSON does.  It may find more only where a truth value meets a number. -/
def EnumsAgree (schema : ConfigDict) (value : ConfigValue) : Prop :=
  ∀ part, Relation.ReflTransGen (Part .narrowed) (schema, value) part →
    ∀ values, part.1.lookup "enum" = some (.list values) →
      ∀ entry ∈ values, pyEq part.2 entry = true → jsonEq part.2 entry = true

lemma part_python : Part .python = Part .narrowed := by
  funext whole part
  apply propext
  constructor
  · rintro (⟨hreads, hproperties, hsub, hitem⟩ | ⟨hreads, hitems, hitem⟩)
    · exact .property hreads hproperties hsub hitem
    · exact .item hreads hitems hitem
  · rintro (⟨hreads, hproperties, hsub, hitem⟩ | ⟨hreads, hitems, hitem⟩)
    · exact .property hreads hproperties hsub hitem
    · exact .item hreads hitems hitem

lemma has_python_iff {type : JsonType} : type.Has .python value ↔ type.Has .narrowed value := by
  cases type <;> cases value <;> rfl

lemma meetsType_python_iff_narrowed :
    MeetsType .python schema value ↔ MeetsType .narrowed schema value := by
  constructor
  · rintro ⟨hnamed, -⟩
    exact ⟨fun type h => has_python_iff.mp (hnamed type h), fun h => by cases h⟩
  · rintro ⟨hnamed, -⟩
    exact ⟨fun type h => has_python_iff.mpr (hnamed type h), fun h => by cases h⟩

lemma meets_python_of_narrowed {part : ConfigDict × ConfigValue}
    (h : Meets pyStr .narrowed part) : Meets pyStr .python part where
  enum := by
    intro values hvalues hempty
    obtain ⟨entry, hentry, hsame⟩ := h.enum values hvalues hempty
    exact ⟨entry, hentry, pyEq_of_jsonEq _ _ hsame⟩
  type := meetsType_python_iff_narrowed.mpr h.type
  required := h.required

lemma meets_narrowed_of_python {part : ConfigDict × ConfigValue}
    (hagree : ∀ values, part.1.lookup "enum" = some (.list values) →
      ∀ entry ∈ values, pyEq part.2 entry = true → jsonEq part.2 entry = true)
    (h : Meets pyStr .python part) : Meets pyStr .narrowed part where
  enum := by
    intro values hvalues hempty
    obtain ⟨entry, hentry, hsame⟩ := h.enum values hvalues hempty
    exact ⟨entry, hentry, hagree values hvalues entry hentry hsame⟩
  type := meetsType_python_iff_narrowed.mp h.type
  required := h.required

lemma valid_python_iff (hagree : EnumsAgree schema value) :
    Valid pyStr .python schema value ↔ Valid pyStr .narrowed schema value := by
  constructor
  · intro h part hpart
    exact meets_narrowed_of_python (hagree part hpart) (h part (by rwa [part_python]))
  · intro h part hpart
    rw [part_python] at hpart
    exact meets_python_of_narrowed (h part hpart)

/-- The validator accepts a value exactly when it is valid under JSON Schema as the validator's
guards narrow it, for schemas and values nested to any depth. -/
theorem validate_accepts_iff_valid (pyStr : ConfigValue → String) (schema : ConfigDict)
    (value : ConfigValue) (location : String) (hagree : EnumsAgree schema value) :
    (validateJsonSchemaValue pyStr schema value location).isOk = true ↔
      Valid pyStr .narrowed schema value :=
  (isOk_validate_iff schema value location).trans (valid_python_iff hagree)

/-- Settings with a choice of modes. -/
def modeSchema : ConfigDict :=
  [("type", .str "object"),
    ("properties", .dict [("mode", .dict [("enum", .list [.str "fast", .str "slow"])])])]

theorem validate_accepts_iff_valid_mode :
    EnumsAgree modeSchema (.dict [("mode", .str "fast")]) ∧
      ((validateJsonSchemaValue (fun _ => "") modeSchema (.dict [("mode", .str "fast")]) "$").isOk =
          true ↔
        Valid (fun _ => "") .narrowed modeSchema (.dict [("mode", .str "fast")])) := by
  have hagree : EnumsAgree modeSchema (.dict [("mode", .str "fast")]) := by
    intro part hpart
    rcases hpart.cases_head with rfl | ⟨child, hchild, hpart⟩
    · intro values hvalues
      cases hvalues
    cases hchild with
    | property hreads hproperties hsub hitem =>
      cases hproperties
      simp only [List.mem_singleton, Prod.mk.injEq, PromptValue.dict.injEq] at hsub
      obtain ⟨rfl, rfl⟩ := hsub
      cases hitem
      rcases hpart.cases_head with rfl | ⟨child, hchild, -⟩
      · rintro _ ⟨⟩ entry hentry
        simp only [List.mem_cons, List.not_mem_nil, or_false] at hentry
        rcases hentry with rfl | rfl
        · exact fun _ => by decide +kernel
        · exact fun hsame => absurd hsame (by decide +kernel)
      · cases hchild
  exact ⟨hagree, validate_accepts_iff_valid (fun _ => "") modeSchema _ "$" hagree⟩

/-- An empty `enum`, a `required` without a type, an integral float and a union of types: the
validator and JSON Schema answer differently. -/
theorem guards_not_standard :
    ¬ ((validateJsonSchemaValue (fun _ => "") [("enum", .list [])] .null "$").isOk = true ↔
      Valid (fun _ => "") .standard [("enum", .list [])] .null) ∧
    ¬ ((validateJsonSchemaValue (fun _ => "") [("required", .list [.str "name"])] (.dict [])
        "$").isOk = true ↔
      Valid (fun _ => "") .standard [("required", .list [.str "name"])] (.dict [])) ∧
    ¬ ((validateJsonSchemaValue (fun _ => "") [("type", .str "integer")] (.float 3)
        "$").isOk = true ↔
      Valid (fun _ => "") .standard [("type", .str "integer")] (.float 3)) ∧
    ¬ ((validateJsonSchemaValue (fun _ => "") [("type", .list [.str "string", .str "null"])]
        (.int 3) "$").isOk = true ↔
      Valid (fun _ => "") .standard [("type", .list [.str "string", .str "null"])]
        (.int 3)) := by
  refine ⟨fun h => ?_, fun h => ?_, fun h => ?_, fun h => ?_⟩
  · have hvalid := h.mp (by decide +kernel) _ .refl
    obtain ⟨_, hentry, -⟩ := hvalid.enum [] rfl (.inl rfl)
    cases hentry
  · have hvalid := h.mp (by decide +kernel) _ .refl
    have hsome := hvalid.required (.inl rfl) [] [.str "name"] rfl rfl (.str "name") (by simp)
    cases hsome
  · refine absurd (h.mpr (valid_iff.mpr ⟨?_, ?_⟩)) (by decide +kernel)
    · refine { enum := ?_, type := ?_, required := ?_ }
      · rintro _ ⟨⟩
      · refine { named := fun type hname => ?_, union := ?_ }
        · obtain rfl : type = .integer :=
            JsonType.name_inj (PromptValue.str.inj (Option.some.inj hname)).symm
          exact ⟨rfl, rfl⟩
        · rintro - _ ⟨⟩
      · rintro - _ _ ⟨⟩
    · rintro _ ⟨⟩
  · have hvalid := h.mp (by decide +kernel) _ .refl
    obtain ⟨type, hname, hhas⟩ := hvalid.type.union rfl _ rfl
    cases type with
    | string => exact hhas
    | null => exact hhas
    | _ => simp [JsonType.name] at hname

/-! ## Where the guards make no difference -/

/-- A schema and a value that every guard of the validator lets through to JSON Schema. -/
structure Unguarded (part : ConfigDict × ConfigValue) : Prop where
  enum : part.1.lookup "enum" ≠ some (.list [])
  union : ∀ names, part.1.lookup "type" ≠ some (.list names)
  object : ∀ fields, part.2 = .dict fields → Reads .narrowed part.1 .object ∨
    (∀ properties, part.1.lookup "properties" ≠ some (.dict properties)) ∧
      ∀ items, part.1.lookup "required" ≠ some (.list items)
  array : ∀ items, part.2 = .list items → Reads .narrowed part.1 .array ∨
    ∀ itemSchema, part.1.lookup "items" ≠ some (.dict itemSchema)
  integer : ∀ number, part.2 = .float number → number.den = 1 →
    part.1.lookup "type" ≠ some (.str "integer")

lemma part_standard_iff {whole part : ConfigDict × ConfigValue} (h : Unguarded whole) :
    Part .standard whole part ↔ Part .narrowed whole part := by
  constructor
  · rintro (⟨-, hproperties, hsub, hitem⟩ | ⟨-, hitems, hitem⟩)
    · obtain hreads | ⟨hno, -⟩ := h.object _ rfl
      · exact .property hreads hproperties hsub hitem
      · exact absurd hproperties (hno _)
    · obtain hreads | hno := h.array _ rfl
      · exact .item hreads hitems hitem
      · exact absurd hitems (hno _)
  · rintro (⟨-, hproperties, hsub, hitem⟩ | ⟨-, hitems, hitem⟩)
    · exact .property (.inl rfl) hproperties hsub hitem
    · exact .item (.inl rfl) hitems hitem

lemma has_standard_iff {part : ConfigDict × ConfigValue} (h : Unguarded part) {type : JsonType}
    (htype : part.1.lookup "type" = some (.str type.name)) :
    type.Has .standard part.2 ↔ type.Has .narrowed part.2 := by
  obtain ⟨schema, value⟩ := part
  cases type <;> cases value <;> try rfl
  -- a float where an integer is asked for
  refine iff_of_false (fun hhas => h.integer _ rfl hhas.2 htype) fun hhas => ?_
  cases hhas.1

lemma meets_standard_iff {part : ConfigDict × ConfigValue} (h : Unguarded part) :
    Meets pyStr .standard part ↔ Meets pyStr .narrowed part := by
  constructor
  · rintro ⟨henum, htype, hrequired⟩
    refine { enum := ?_, type := { named := ?_, union := ?_ }, required := ?_ }
    · exact fun values hvalues _ => henum values hvalues (.inl rfl)
    · exact fun type hname => (has_standard_iff h hname).mp (htype.named type hname)
    · intro hunions
      cases hunions
    · exact fun _ => hrequired (.inl rfl)
  · rintro ⟨henum, htype, hrequired⟩
    refine { enum := ?_, type := { named := ?_, union := ?_ }, required := ?_ }
    · intro values hvalues _
      refine henum values hvalues (.inr ?_)
      rintro rfl
      exact h.enum hvalues
    · exact fun type hname => (has_standard_iff h hname).mpr (htype.named type hname)
    · exact fun _ names hnames => absurd hnames (h.union names)
    · intro _ fields items hfields hitems
      obtain hreads | ⟨-, hno⟩ := h.object fields hfields
      · exact hrequired hreads fields items hfields hitems
      · exact absurd hitems (hno items)

end CocoonSit.JsonSchema
