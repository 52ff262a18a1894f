import CocoonSit.Prompts.Renderer

/-!
# The schemas of plugin settings

A plugin's manifest has schemas, in the manner of JSON schemas, for the settings of the plugin and
of its users, and the services check settings against them when they are written.
-/

namespace CocoonSit

/-- A JSON value in a plugin's settings. -/
abbrev ConfigValue := PromptValue

/-- The settings themselves, and a schema. -/
abbrev ConfigDict := List (String × ConfigValue)

/-! ## Equality -/

/-- Truth values are numbers, and integers are equal to floats. -/
def PromptValue.asNumber : PromptValue → Option ℚ
  | .bool value => some (if value then 1 else 0)
  | .int value => some value
  | .float value => some value
  | _ => none

def numberEq (a b : ConfigValue) : Bool :=
  match a.asNumber, b.asNumber with
  | some x, some y => x = y
  | _, _ => false

mutual

/-- Python's `==`. -/
def pyEq : ConfigValue → ConfigValue → Bool
  | .null, .null => true
  | .str a, .str b => a = b
  | .list xs, .list ys => pyEqList xs ys
  | .dict xs, .dict ys => xs.length = ys.length && pyEqItems xs ys
  | .bool a, b => numberEq (.bool a) b
  | .int a, b => numberEq (.int a) b
  | .float a, b => numberEq (.float a) b
  | _, _ => false

def pyEqList : List ConfigValue → List ConfigValue → Bool
  | [], [] => true
  | x :: xs, y :: ys => pyEq x y && pyEqList xs ys
  | _, _ => false

def pyEqItem : String × ConfigValue → ConfigDict → Bool
  | (key, value), ys => match ys.lookup key with
    | some value' => pyEq value value'
    | none => false

def pyEqItems : ConfigDict → ConfigDict → Bool
  | [], _ => true
  | x :: xs, ys => pyEqItem x ys && pyEqItems xs ys

end

example : pyEq (.list [.bool true]) (.list [.float 1]) = true := by decide +kernel

/-! ## Validation -/

/-- What is wrong with a value. -/
inductive SchemaProblem where
  | mustBeOneOf (values : List ConfigValue)
  | isRequired
  | mustBe (type : String)

/-- `PluginSchemaValidationError`. -/
structure SchemaError where
  location : String
  problem : SchemaProblem

variable (pyStr : ConfigValue → String)

/-- The check of `enum`. -/
def validateEnum (schema : ConfigDict) (value : ConfigValue) (location : String) :
    Except SchemaError Unit :=
  match lookupItem schema "enum" with
  | .list values =>
    if values ≠ [] ∧ !values.any (pyEq value) then .error ⟨location, .mustBeOneOf values⟩
    else .ok ()
  | _ => .ok ()

/-- The check of `required`. -/
def validateRequired (schema fields : ConfigDict) (location : String) : Except SchemaError Unit :=
  match lookupItem schema "required" with
  | .list items => items.forM fun item =>
    if (fields.lookup (toText pyStr item)).isSome then .ok ()
    else .error ⟨location ++ "." ++ toText pyStr item, .isRequired⟩
  | _ => .ok ()

lemma sizeOf_lookup_lt {fields : ConfigDict} {key : String} {value : ConfigValue}
    (h : fields.lookup key = some value) : sizeOf value < sizeOf fields := by
  induction fields with
  | nil => cases h
  | cons field fields ih =>
    obtain ⟨k, v⟩ := field
    rw [List.lookup_cons] at h
    split at h
    · cases h
      simp only [List.cons.sizeOf_spec, Prod.mk.sizeOf_spec]
      omega
    · have hlt := ih h
      simp only [List.cons.sizeOf_spec]
      omega

lemma sizeOf_item_lt {fields : ConfigDict} {key : String} {sub : ConfigDict}
    (h : (key, .dict sub) ∈ fields) : sizeOf sub < sizeOf fields := by
  have hlt := List.sizeOf_lt_of_mem h
  simp only [Prod.mk.sizeOf_spec, PromptValue.dict.sizeOf_spec] at hlt
  omega

def validateJsonSchemaValue (schema : ConfigDict) (value : ConfigValue) (location : String) :
    Except SchemaError Unit :=
  if schema.isEmpty then .ok ()
  else (validateEnum schema value location).bind fun _ =>
    match lookupItem schema "type", value with
    | .str "object", .dict fields =>
      (validateRequired pyStr schema fields location).bind fun _ =>
        match hproperties : schema.lookup "properties" with
        | some (.dict properties) => properties.attach.forM fun ⟨(key, subSchema), hmem⟩ =>
          match hsub : subSchema, fields.lookup key with
          | .dict sub, some item => validateJsonSchemaValue sub item (location ++ "." ++ key)
          | _, _ => .ok ()
        | _ => .ok ()
    | .str "object", _ => .error ⟨location, .mustBe "an object"⟩
    | .str "array", .list items =>
      match hitems : schema.lookup "items" with
      | some (.dict itemSchema) => items.zipIdx.forM fun (item, index) =>
        validateJsonSchemaValue itemSchema item (location ++ "[" ++ toString index ++ "]")
      | _ => .ok ()
    | .str "array", _ => .error ⟨location, .mustBe "an array"⟩
    | .str "string", .str _ => .ok ()
    | .str "string", _ => .error ⟨location, .mustBe "a string"⟩
    | .str "boolean", .bool _ => .ok ()
    | .str "boolean", _ => .error ⟨location, .mustBe "a boolean"⟩
    | .str "integer", .int _ => .ok ()
    | .str "integer", _ => .error ⟨location, .mustBe "an integer"⟩
    | .str "number", .int _ => .ok ()
    | .str "number", .float _ => .ok ()
    | .str "number", _ => .error ⟨location, .mustBe "a number"⟩
    | .str "null", .null => .ok ()
    | .str "null", _ => .error ⟨location, .mustBe "null"⟩
    | _, _ => .ok ()
termination_by sizeOf schema
decreasing_by
  · subst hsub
    have hlt := sizeOf_lookup_lt hproperties
    have hitem := sizeOf_item_lt hmem
    simp only [PromptValue.dict.sizeOf_spec] at hlt
    omega
  · have hlt := sizeOf_lookup_lt hitems
    simp only [PromptValue.dict.sizeOf_spec] at hlt
    omega

/-! ## Validity -/

/-- The settings are as the schema wants them. -/
def ValidConfig (schema config : ConfigDict) : Prop :=
  (validateJsonSchemaValue pyStr schema (.dict config) "$").isOk = true

instance (schema config : ConfigDict) : Decidable (ValidConfig pyStr schema config) :=
  inferInstanceAs (Decidable (_ = true))

example : ¬ ValidConfig (fun _ => "")
    [("type", .str "object"), ("properties", .dict [("port", .dict [("type", .str "integer")])])]
    [("port", .str "80")] := by decide +kernel

lemma isOk_bind {ε β : Type*} {x : Except ε Unit} {f : Unit → Except ε β} :
    (x.bind f).isOk = (x.isOk && (f ()).isOk) := by
  cases x <;> rfl

lemma isOk_forM {ε α : Type*} {xs : List α} {f : α → Except ε Unit} :
    (List.forM xs f).isOk = xs.all fun x => (f x).isOk := by
  induction xs with
  | nil => rfl
  | cons x xs ih =>
    rw [List.all_cons, ← ih]
    exact isOk_bind

variable {pyStr}

lemma isOk_validateEnum (schema : ConfigDict) (value : ConfigValue) (l l' : String) :
    (validateEnum schema value l).isOk = (validateEnum schema value l').isOk := by
  unfold validateEnum
  split
  · split <;> rfl
  · rfl

lemma isOk_validateRequired (schema fields : ConfigDict) (l l' : String) :
    (validateRequired pyStr schema fields l).isOk =
      (validateRequired pyStr schema fields l').isOk := by
  unfold validateRequired
  split
  · rw [isOk_forM, isOk_forM]
    refine congrArg _ (funext fun item => ?_)
    split <;> rfl
  · rfl

/-- Where a value is found does not matter for whether it is valid. -/
theorem isOk_validate_location (schema : ConfigDict) (value : ConfigValue) (l l' : String) :
    (validateJsonSchemaValue pyStr schema value l).isOk =
      (validateJsonSchemaValue pyStr schema value l').isOk := by
  fun_induction validateJsonSchemaValue pyStr schema value l generalizing l' with
  | case1 schema value l hempty =>
    rw [validateJsonSchemaValue.eq_def, if_pos hempty]
  | case2 schema value l hschema ihproperties ihitems =>
    rw [validateJsonSchemaValue.eq_def pyStr schema value l', if_neg hschema, isOk_bind,
      isOk_bind,
      isOk_validateEnum schema value l l']
    refine congrArg _ ?_
    split
    · rw [isOk_bind, isOk_bind, isOk_validateRequired schema _ l l']
      refine congrArg _ ?_
      split
      · rename_i properties hproperties
        rw [isOk_forM, isOk_forM]
        refine congrArg _ (funext fun ⟨(key, subSchema), hmem⟩ => ?_)
        dsimp only
        split
        · rename_i sub item hitem hmem _
          exact ihproperties properties hproperties key _ hmem sub item rfl _
        · rfl
      · rfl
    · rfl
    · split
      · rename_i itemSchema hitems
        rw [isOk_forM, isOk_forM]
        refine congrArg _ (funext fun ⟨item, index⟩ => ?_)
        exact ihitems itemSchema hitems item index _
      · rfl
    all_goals rfl

end CocoonSit
