import CocoonSit.Lib.Table
import CocoonSit.Lib.Traverse

/-!
# Python values out of JSON

What `json.loads` makes of a text, and what `dict(…)`, `list(…)` and `or` make of that.  The keys of
a parsed object are texts; a `dict` of a list of pairs may have others, and they become texts when
it is written.
-/

namespace CocoonSit

open Table

/-- A key of a `dict`; a bool and the number equal to it are kept apart. -/
inductive PyKey where
  | text (s : String)
  | null
  | bool (b : Bool)
  | num (shown : String) (nonzero : Bool)
deriving DecidableEq

/-- What `json.dumps` writes for a key. -/
def PyKey.shown : PyKey → String
  | .text s => s
  | .null => "null"
  | .bool b => if b then "true" else "false"
  | .num shown _ => shown

/-- A value; `shown` is what is written for a number. -/
inductive PyValue where
  | null
  | bool (b : Bool)
  | num (shown : String) (nonzero : Bool)
  | str (s : String)
  | list (items : List PyValue)
  | dict (fields : List (PyKey × PyValue))

/-- A `dict`, in insertion order. -/
abbrev PyDict := List (PyKey × PyValue)

instance : Keyed (PyKey × PyValue) PyKey := ⟨Prod.fst⟩

@[simp] lemma key_pyField (f : PyKey × PyValue) : key f = f.1 := rfl

namespace PyDict

/-- `d.get(k)`. -/
def find (d : PyDict) (k : PyKey) : Option PyValue := (get d k).map Prod.snd

/-- `d.get(k)` of a text. -/
def field (d : PyDict) (k : String) : Option PyValue := find d (.text k)

/-- `d[k] = v`. -/
def set (d : PyDict) (k : PyKey) (v : PyValue) : PyDict := put d (k, v)

/-- The `dict` of these pairs; a later pair of a key wins. -/
def ofPairs (pairs : List (PyKey × PyValue)) : PyDict := pairs.foldl put []

variable {d : PyDict} {k k' : PyKey} {v : PyValue}

lemma find_set : find (set d k v) k' = if k' = k then some v else find d k' := by
  rw [find, set, get_put, apply_ite (Option.map Prod.snd)]
  rfl

lemma find_cons {f : PyKey × PyValue} :
    find (f :: d) k = if f.1 = k then some f.2 else find d k := by
  by_cases hk : f.1 = k
  · rw [if_pos hk, find, Table.get, List.find?_cons_of_pos (by simpa using hk)]
    rfl
  · rw [if_neg hk, find, Table.get, List.find?_cons_of_neg (by simpa using hk)]
    rfl

lemma find_eq_none_iff : find d k = none ↔ k ∉ d.map key := by
  rw [find, Option.map_eq_none_iff, get_eq_none_iff]

lemma mem_of_find (h : find d k = some v) : (k, v) ∈ d := by
  obtain ⟨f, hf, rfl⟩ := Option.map_eq_some_iff.mp h
  obtain rfl : f.1 = k := key_of_get hf
  exact mem_of_get hf

lemma find_of_mem (hnodup : (d.map key).Nodup) (h : (k, v) ∈ d) : find d k = some v := by
  rw [find, show get d k = some (k, v) from get_of_mem hnodup h]
  rfl

lemma nodup_ofPairs (pairs : List (PyKey × PyValue)) : ((ofPairs pairs).map key).Nodup := by
  suffices h : ∀ acc : PyDict, (acc.map key).Nodup → ((pairs.foldl put acc).map key).Nodup from
    h [] List.nodup_nil
  induction pairs with
  | nil => exact fun _ h => h
  | cons f pairs ih => exact fun acc h => ih _ (nodup_put h)

lemma mem_of_mem_ofPairs {pairs : List (PyKey × PyValue)} {f : PyKey × PyValue}
    (h : f ∈ ofPairs pairs) : f ∈ pairs := by
  suffices hfold : ∀ acc : PyDict, f ∈ pairs.foldl put acc → f ∈ acc ∨ f ∈ pairs from
    (hfold [] h).resolve_left List.not_mem_nil
  clear h
  induction pairs with
  | nil => exact fun _ h => .inl h
  | cons f' pairs ih =>
    intro acc h
    rcases ih _ h with h | h
    · exact (mem_put h).elim (fun h => .inr (h ▸ List.mem_cons_self)) .inl
    · exact .inr (List.mem_cons_of_mem _ h)

lemma ofPairs_of_nodup (h : (d.map key).Nodup) : ofPairs d = d := by
  suffices hfold : ∀ acc : PyDict, ((acc ++ d).map key).Nodup → d.foldl put acc = acc ++ d from
    hfold [] h
  induction d with
  | nil => exact fun acc _ => (List.append_nil acc).symm
  | cons f d ih =>
    intro acc hacc
    have hnew : get acc (key f) = none := by
      rw [get_eq_none_iff]
      rw [List.map_append, List.map_cons] at hacc
      exact fun hmem => (List.disjoint_of_nodup_append hacc) hmem List.mem_cons_self
    have hput : put acc f = acc ++ [f] := by
      rw [put, hnew]
      rfl
    have happ : acc ++ f :: d = (acc ++ [f]) ++ d := by simp
    rw [happ] at hacc ⊢
    rw [List.foldl_cons, hput]
    exact ih (List.nodup_cons.mp h).2 _ hacc

end PyDict

namespace PyValue

/-! ## Coercions -/

/-- Python's truth value. -/
def truthy : PyValue → Bool
  | .null => false
  | .bool b => b
  | .num _ nonzero => nonzero
  | .str s => s ≠ ""
  | .list items => !items.isEmpty
  | .dict fields => !fields.isEmpty

/-- A value as a key; `none` where it cannot be hashed. -/
def asKey : PyValue → Option PyKey
  | .null => some .null
  | .bool b => some (.bool b)
  | .num shown nonzero => some (.num shown nonzero)
  | .str s => some (.text s)
  | .list _ | .dict _ => none

/-- A key as a value, as `list(d)` has it. -/
def ofKey : PyKey → PyValue
  | .text s => .str s
  | .null => .null
  | .bool b => .bool b
  | .num shown nonzero => .num shown nonzero

/-- What `dict(…)` makes of an element of a list. -/
def asPair : PyValue → Option (PyKey × PyValue)
  | .list [k, v] => (asKey k).map (·, v)
  | .str s =>
    match s.toList with
    | [k, v] => some (.text (String.ofList [k]), .str (String.ofList [v]))
    | _ => none
  | .dict [(k, _), (v, _)] => some (k, ofKey v)
  | _ => none

/-- `dict(v or {})`; `none` where it raises. -/
def dictOf (v : Option PyValue) : Option PyDict :=
  match v.filter truthy with
  | none => some []
  | some (.dict fields) => some fields
  | some (.list items) => (items.mapM asPair).map PyDict.ofPairs
  | some _ => none

/-- `v or {}` where a method of `dict` is called on it. -/
def fieldsOf (v : Option PyValue) : Option PyDict :=
  match v.filter truthy with
  | none => some []
  | some (.dict fields) => some fields
  | some _ => none

/-- `list(v or [])`. -/
def listOf (v : Option PyValue) : Option (List PyValue) :=
  match v.filter truthy with
  | none => some []
  | some (.list items) => some items
  | some (.str s) => some (s.toList.map fun c => .str (String.ofList [c]))
  | some (.dict fields) => some (fields.map fun f => ofKey f.1)
  | some _ => none

/-- `str(v)`; `pyStr` prints what is no text. -/
def textOf (pyStr : PyValue → String) : PyValue → String
  | .str s => s
  | v => pyStr v

/-- `str(v or default)`. -/
def textOr (pyStr : PyValue → String) (default : String) (v : Option PyValue) : String :=
  ((v.filter truthy).map (textOf pyStr)).getD default

/-! ## Texts -/

mutual

/-- What `json.loads` makes of what `json.dumps` writes: every key is a text. -/
def dumped : PyValue → PyValue
  | .list items => .list (dumpedItems items)
  | .dict fields => .dict (PyDict.ofPairs (dumpedFields fields))
  | v => v

def dumpedItems : List PyValue → List PyValue
  | [] => []
  | v :: vs => dumped v :: dumpedItems vs

def dumpedFields : List (PyKey × PyValue) → List (PyKey × PyValue)
  | [] => []
  | (k, v) :: fields => (.text k.shown, dumped v) :: dumpedFields fields

end

/-- What `json.loads` returns: the keys of an object are texts, each there once. -/
inductive Plain : PyValue → Prop
  | null : Plain .null
  | bool (b : Bool) : Plain (.bool b)
  | num (shown : String) (nonzero : Bool) : Plain (.num shown nonzero)
  | str (s : String) : Plain (.str s)
  | list {items : List PyValue} (h : ∀ v ∈ items, Plain v) : Plain (.list items)
  | dict {fields : List (PyKey × PyValue)} (nodup : (fields.map key).Nodup)
      (texts : ∀ f ∈ fields, ∃ s, f.1 = .text s) (h : ∀ f ∈ fields, Plain f.2) :
      Plain (.dict fields)

lemma Plain.find {d : PyDict} {k : PyKey} {v : PyValue} (h : Plain (.dict d))
    (hv : d.find k = some v) : Plain v := by
  cases h with
  | dict _ _ h => exact h _ (PyDict.mem_of_find hv)

/-- Every key of the `dict` is a text. -/
def TextKeys (d : PyDict) : Prop := ∀ f ∈ d, ∃ s, f.1 = .text s

lemma Plain.textKeys {d : PyDict} (h : Plain (.dict d)) : TextKeys d := by
  cases h with
  | dict _ texts _ => exact texts

lemma Plain.set {d : PyDict} {v : PyValue} (h : Plain (.dict d)) (k : String) (hv : Plain v) :
    Plain (.dict (d.set (.text k) v)) := by
  cases h with
  | dict nodup texts h =>
    refine .dict (nodup_put nodup) (fun f hf => ?_) (fun f hf => ?_)
    · rcases mem_put hf with rfl | hf
      · exact ⟨k, rfl⟩
      · exact texts f hf
    · rcases mem_put hf with rfl | hf
      · exact hv
      · exact h f hf

lemma plain_nil : Plain (.dict []) :=
  .dict List.nodup_nil (fun _ hf => absurd hf List.not_mem_nil)
    (fun _ hf => absurd hf List.not_mem_nil)

lemma plain_texts (texts : List String) : Plain (.list (texts.map .str)) := by
  refine .list fun v hv => ?_
  obtain ⟨text, -, rfl⟩ := List.mem_map.mp hv
  exact .str text

lemma plain_record {fields : PyDict} (names : List String) (hnames : names.Nodup)
    (h : fields.map key = names.map .text) (hfields : ∀ f ∈ fields, Plain f.2) :
    Plain (.dict fields) := by
  refine .dict ?_ (fun f hf => ?_) hfields
  · rw [h]
    exact hnames.map fun _ _ => PyKey.text.inj
  · have hmem : f.1 ∈ names.map PyKey.text := h ▸ List.mem_map_of_mem hf
    obtain ⟨name, -, hname⟩ := List.mem_map.mp hmem
    exact ⟨name, hname.symm⟩

lemma plain_ofKey (k : PyKey) : Plain (ofKey k) := by
  cases k with
  | text s => exact .str s
  | null => exact .null
  | bool b => exact .bool b
  | num shown nonzero => exact .num shown nonzero

lemma plain_asPair {v : PyValue} {f : PyKey × PyValue} (hv : Plain v) (h : asPair v = some f) :
    Plain f.2 := by
  unfold asPair at h
  split at h
  · obtain ⟨_, -, rfl⟩ := Option.map_eq_some_iff.mp h
    cases hv with
    | list hitems => exact hitems _ (by simp)
  · split at h
    · cases h
      exact .str _
    · cases h
  · cases h
    exact plain_ofKey _
  · cases h

lemma plain_of_dictOf {v : Option PyValue} {d : PyDict} (hv : ∀ w, v = some w → Plain w)
    (h : dictOf v = some d) : (d.map key).Nodup ∧ ∀ f ∈ d, Plain f.2 := by
  unfold dictOf at h
  split at h
  · cases h
    exact ⟨List.nodup_nil, fun _ hf => absurd hf List.not_mem_nil⟩
  · next fields hfilter =>
    cases h
    cases hv _ (Option.filter_eq_some_iff.mp hfilter).1 with
    | dict nodup _ h => exact ⟨nodup, h⟩
  · next items hfilter =>
    obtain ⟨pairs, hpairs, rfl⟩ := Option.map_eq_some_iff.mp h
    refine ⟨PyDict.nodup_ofPairs pairs, fun f hf => ?_⟩
    cases hv _ (Option.filter_eq_some_iff.mp hfilter).1 with
    | list hitems =>
      obtain ⟨item, hitem, hpair⟩ :=
        Traverse.exists_of_mem_mapM hpairs (PyDict.mem_of_mem_ofPairs hf)
      exact plain_asPair (hitems item hitem) hpair
  · cases h

lemma plain_of_listOf {v : Option PyValue} {items : List PyValue} (hv : ∀ w, v = some w → Plain w)
    (h : listOf v = some items) : Plain (.list items) := by
  unfold listOf at h
  split at h
  · cases h
    exact .list fun _ hitem => absurd hitem List.not_mem_nil
  · next hfilter =>
    cases h
    exact hv _ (Option.filter_eq_some_iff.mp hfilter).1
  · cases h
    refine .list fun item hitem => ?_
    obtain ⟨_, -, rfl⟩ := List.mem_map.mp hitem
    exact .str _
  · cases h
    refine .list fun item hitem => ?_
    obtain ⟨_, -, rfl⟩ := List.mem_map.mp hitem
    exact plain_ofKey _
  · cases h

lemma dumpedItems_eq_self {items : List PyValue} (h : ∀ v ∈ items, dumped v = v) :
    dumpedItems items = items := by
  induction items with
  | nil => rfl
  | cons v vs ih =>
    obtain ⟨hv, hvs⟩ := List.forall_mem_cons.mp h
    rw [dumpedItems, hv, ih hvs]

lemma dumpedFields_eq_self {fields : List (PyKey × PyValue)}
    (texts : ∀ f ∈ fields, ∃ s, f.1 = .text s) (h : ∀ f ∈ fields, dumped f.2 = f.2) :
    dumpedFields fields = fields := by
  induction fields with
  | nil => rfl
  | cons f fields ih =>
    obtain ⟨⟨s, hs⟩, htexts⟩ := List.forall_mem_cons.mp texts
    obtain ⟨hf, hfields⟩ := List.forall_mem_cons.mp h
    obtain ⟨k, v⟩ := f
    obtain rfl : k = .text s := hs
    rw [dumpedFields, ih htexts hfields, show dumped v = v from hf]
    rfl

/-- What can come from a JSON text comes back as it is. -/
theorem dumped_of_plain {v : PyValue} (h : Plain v) : dumped v = v := by
  induction h with
  | null => rfl
  | bool b => rfl
  | num shown nonzero => rfl
  | str s => rfl
  | list _ ih => rw [dumped, dumpedItems_eq_self ih]
  | dict nodup texts _ ih =>
    rw [dumped, dumpedFields_eq_self texts ih, PyDict.ofPairs_of_nodup nodup]

end PyValue

end CocoonSit
