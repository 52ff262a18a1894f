import CocoonSit.Catalog.Characters
import CocoonSit.Plugins.Schedules

/-!
# The grammar of cron expressions

`_parse_cron_field` cuts a field at commas, at the first slash and at the first dash, and leaves
the rest to `int()`.  What it accepts is a grammar whose numbers are the texts that `int()` reads:
besides plain numbers these are numbers with a sign, with underscores between the digits and with
digits of other scripts.  The parser is compared with the syntax trees of that grammar.
-/

namespace CocoonSit

namespace Cron

/-! ## Syntax -/

/-- What a part of a field ranges over; numbers are texts still. -/
inductive CronBase where
  | every
  | single (n : String)
  | range (a b : String)
deriving Inhabited

/-- A part of a field, perhaps with a step. -/
structure CronPart where
  base : CronBase
  step : Option String := none
deriving Inhabited

def CronBase.text : CronBase → String
  | every => "*"
  | single n => n
  | range a b => a ++ "-" ++ b

def CronPart.text (p : CronPart) : String :=
  match p.step with
  | some k => p.base.text ++ "/" ++ k
  | none => p.base.text

/-- A field: its parts with commas between them. -/
def fieldText (parts : List CronPart) : String :=
  String.ofList ([','].intercalate (parts.map fun p => p.text.toList))

/-- The first and the last value of a base.  A first number has no dash: the first dash is the
range's. -/
inductive CronBase.Spans (minimum maximum : ℤ) : CronBase → ℤ → ℤ → Prop
  | every : Spans minimum maximum .every minimum maximum
  | single {n : String} {v : ℤ} (hn : intOf n = .ok v) (hdash : '-' ∉ n.toList)
      (hmin : minimum ≤ v) (hmax : v ≤ maximum) : Spans minimum maximum (.single n) v v
  | range {a b : String} {v w : ℤ} (ha : intOf a = .ok v) (hdash : '-' ∉ a.toList)
      (hb : intOf b = .ok w) (hmin : minimum ≤ v) (hle : v ≤ w) (hmax : w ≤ maximum) :
      Spans minimum maximum (.range a b) v w

/-- The step of a part. -/
inductive StepIs : Option String → ℤ → Prop
  | one : StepIs none 1
  | of {k : String} {step : ℤ} (hk : intOf k = .ok step) (hpos : 1 ≤ step) : StepIs (some k) step

/-- A part stands for the values from `start` to `stop` in steps of `step`. -/
structure CronPart.Stands (minimum maximum : ℤ) (p : CronPart) (start stop step : ℤ) : Prop where
  base : p.base.Spans minimum maximum start stop
  step : StepIs p.step step

/-- A field of the grammar. -/
def IsField (minimum maximum : ℤ) (parts : List CronPart) : Prop :=
  parts ≠ [] ∧ ∀ p ∈ parts, ∃ start stop step, p.Stands minimum maximum start stop step

/-- Among the weekdays, Sunday has two numbers. -/
def aliased (sundayAlias : Bool) (v : ℤ) : ℤ := if sundayAlias ∧ v = 7 then 0 else v

/-- What a field denotes: `{a, a + k, …}` up to `b` for each of its parts. -/
def Denoted (minimum maximum : ℤ) (sundayAlias : Bool) (parts : List CronPart) (v : ℤ) : Prop :=
  ∃ p ∈ parts, ∃ start stop step, p.Stands minimum maximum start stop step ∧
    ∃ i : ℕ, start + i * step ≤ stop ∧ v = aliased sundayAlias (start + i * step)

/-- The fields of an expression. -/
structure FieldSyntax where
  minutes : List CronPart
  hours : List CronPart
  days : List CronPart
  months : List CronPart
  weekdays : List CronPart

def FieldSyntax.texts (e : FieldSyntax) : List String :=
  [fieldText e.minutes, fieldText e.hours, fieldText e.days, fieldText e.months,
    fieldText e.weekdays]

/-- `s` has five words, the fields, each within its bounds. -/
structure IsExpression (s : String) (e : FieldSyntax) : Prop where
  words : splitWords s = e.texts
  minutes : IsField 0 59 e.minutes
  hours : IsField 0 23 e.hours
  days : IsField 1 31 e.days
  months : IsField 1 12 e.months
  weekdays : IsField 0 7 e.weekdays

/-- The sets of the fields are not empty and have what the syntax denotes. -/
structure Denotes (e : FieldSyntax) (fields : CronFields) : Prop where
  minutes : fields.minutes ≠ [] ∧ ∀ v, v ∈ fields.minutes ↔ Denoted 0 59 false e.minutes v
  hours : fields.hours ≠ [] ∧ ∀ v, v ∈ fields.hours ↔ Denoted 0 23 false e.hours v
  days : fields.days ≠ [] ∧ ∀ v, v ∈ fields.days ↔ Denoted 1 31 false e.days v
  months : fields.months ≠ [] ∧ ∀ v, v ∈ fields.months ↔ Denoted 1 12 false e.months v
  weekdays : fields.weekdays ≠ [] ∧ ∀ v, v ∈ fields.weekdays ↔ Denoted 0 7 true e.weekdays v

/-! ## Numbers -/

/-- ASCII digits. -/
def PlainNumber (t : String) : Prop := t ≠ "" ∧ ∀ c ∈ t.toList, c.isDigit = true

/-- The number that ASCII digits stand for. -/
def decimal (t : String) : ℕ := t.toList.foldl (fun n c => 10 * n + (c.toNat - 48)) 0

def CronBase.numbers : CronBase → List String
  | every => []
  | single n => [n]
  | range a b => [a, b]

/-- The texts of the numbers. -/
def FieldSyntax.numbers (e : FieldSyntax) : List String :=
  (e.minutes ++ e.hours ++ e.days ++ e.months ++ e.weekdays).flatMap fun p =>
    p.base.numbers ++ p.step.toList

lemma strip_eq_self {s : String} (h : ∀ c ∈ s.toList, isSpace c = false) : strip s = s := by
  have hstripped : Stripped s.toList := by
    have hdrop : ∀ cs : List Char, (∀ c ∈ cs, isSpace c = false) → cs.dropWhile isSpace = cs := by
      intro cs hcs
      cases cs with
      | nil => rfl
      | cons c cs => rw [List.dropWhile_cons_of_neg (by simp [hcs c List.mem_cons_self])]
    exact ⟨hdrop _ h, hdrop _ fun c hc => h c (List.mem_reverse.mp hc)⟩
  have hself := strip_of_stripped hstripped
  rwa [String.ofList_toList] at hself

lemma isSpace_or_mem_strip {s : String} {c : Char} (hc : c ∈ s.toList) :
    isSpace c = true ∨ c ∈ (strip s).toList := by
  have hdrop : ∀ cs : List Char, c ∈ cs → isSpace c = true ∨ c ∈ cs.dropWhile isSpace := by
    intro cs hcs
    rw [← List.takeWhile_append_dropWhile (p := isSpace) (l := cs), List.mem_append] at hcs
    exact hcs.imp_left List.mem_takeWhile_imp
  rw [strip, String.toList_ofList, List.mem_reverse]
  refine (hdrop _ hc).elim .inl fun hmem => hdrop _ (List.mem_reverse.mpr hmem)

lemma of_mem_digitsFrom {n m : ℕ} {afterDigit : Bool} {cs : List Char} {c : Char}
    (h : digitsFrom n afterDigit cs = some m) (hc : c ∈ cs) :
    c = '_' ∨ (digitValue c).isSome = true := by
  induction cs generalizing n afterDigit with
  | nil => cases hc
  | cons d cs ih =>
    by_cases hd : d = '_'
    · subst hd
      cases afterDigit with
      | false => simp [digitsFrom] at h
      | true =>
        rcases List.mem_cons.mp hc with rfl | hc
        · exact .inl rfl
        · exact ih (by simpa [digitsFrom] using h) hc
    · rw [digitsFrom.eq_def] at h
      split at h
      · next heq => cases heq
      · next heq =>
        cases heq
        exact absurd rfl hd
      · next heq =>
        cases heq
        obtain ⟨v, hv, h⟩ := Option.bind_eq_some_iff.mp h
        rcases List.mem_cons.mp hc with rfl | hc
        · exact .inr (by rw [hv, Option.isSome_some])
        · exact ih h hc

lemma digitsFrom_of_map {cs : List Char} {f : ℤ → ℤ} {n : ℤ}
    (h : Option.map f (do let m ← digitsFrom 0 false cs; pure (m : ℤ)) = some n) :
    ∃ m, digitsFrom 0 false cs = some m := by
  obtain ⟨v, hv, -⟩ := Option.map_eq_some_iff.mp h
  obtain ⟨m, hm, -⟩ := Option.bind_eq_some_iff.mp hv
  exact ⟨m, hm⟩

lemma of_mem_intOf {t : String} {v : ℤ} (h : intOf t = .ok v) {c : Char} (hc : c ∈ t.toList) :
    isSpace c = true ∨ c = '-' ∨ c = '+' ∨ c = '_' ∨ (digitValue c).isSome = true := by
  obtain hspace | hmem := isSpace_or_mem_strip hc
  · exact .inl hspace
  refine .inr ?_
  simp only [intOf] at h
  split at h
  · next n hvalue =>
    split at hvalue
    · next cs hcs =>
      rw [hcs] at hmem
      obtain ⟨m, hm⟩ := digitsFrom_of_map hvalue
      rcases List.mem_cons.mp hmem with rfl | hmem
      · exact .inl rfl
      · exact .inr (.inr (of_mem_digitsFrom hm hmem))
    · next cs hcs =>
      rw [hcs] at hmem
      obtain ⟨m, hm⟩ := digitsFrom_of_map hvalue
      rcases List.mem_cons.mp hmem with rfl | hmem
      · exact .inr (.inl rfl)
      · exact .inr (.inr (of_mem_digitsFrom hm hmem))
    · next cs =>
      obtain ⟨m, hm⟩ := digitsFrom_of_map hvalue
      exact .inr (.inr (of_mem_digitsFrom hm hmem))
  · cases h

lemma notMem_of_intOf {t : String} {v : ℤ} (h : intOf t = .ok v) {c : Char}
    (hc : c = ',' ∨ c = '/' ∨ c = '*') : c ∉ t.toList := by
  intro hmem
  have hof := of_mem_intOf h hmem
  rcases hc with rfl | rfl | rfl <;> revert hof <;> decide +kernel

lemma intOf_empty (v : ℤ) : intOf "" ≠ .ok v := by
  intro h
  cases h

lemma toNat_of_isDigit {c : Char} (h : c.isDigit = true) : 48 ≤ c.toNat ∧ c.toNat ≤ 57 := by
  simpa [Char.isDigit, UInt32.le_iff_toNat_le] using h

lemma digitValue_of_isDigit {c : Char} (h : c.isDigit = true) :
    digitValue c = some (c.toNat - 48) := by
  obtain ⟨hlo, hhi⟩ := toNat_of_isDigit h
  have hfirst : 0x30 ≤ c.toNat ∧ c.toNat < 0x30 + 10 := by omega
  rw [digitValue, decimalZeros, List.findSome?_cons, if_pos hfirst]

lemma digitsFrom_of_isDigit {n : ℕ} {afterDigit : Bool} {cs : List Char}
    (h : ∀ c ∈ cs, c.isDigit = true) (hne : afterDigit = true ∨ cs ≠ []) :
    digitsFrom n afterDigit cs = some (cs.foldl (fun n c => 10 * n + (c.toNat - 48)) n) := by
  induction cs generalizing n afterDigit with
  | nil =>
    obtain rfl := hne.resolve_right (by simp)
    rfl
  | cons c cs ih =>
    have hc := h c List.mem_cons_self
    have hunderscore : c ≠ '_' := by
      rintro rfl
      revert hc
      decide
    rw [digitsFrom.eq_def]
    split
    · next heq => cases heq
    · next heq =>
      cases heq
      exact absurd rfl hunderscore
    · next heq =>
      cases heq
      rw [digitValue_of_isDigit hc, Option.bind_some, List.foldl_cons]
      exact ih (fun d hd => h d (List.mem_cons_of_mem _ hd)) (.inl rfl)

lemma intOf_of_plainNumber {t : String} (h : PlainNumber t)
    (hlimit : t.toList.length ≤ maxStrDigits) : intOf t = .ok (decimal t) := by
  obtain ⟨hne, hdigits⟩ := h
  have hstrip : strip t = t := by
    refine strip_eq_self fun c hc => ?_
    obtain ⟨hlo, hhi⟩ := toNat_of_isDigit (hdigits c hc)
    simp only [isSpace, Bool.or_eq_false_iff, Bool.and_eq_false_iff, decide_eq_false_iff_not,
      beq_eq_false_iff_ne]
    omega
  have hcount : ¬ maxStrDigits < countDigits t := by
    have hle : countDigits t ≤ t.toList.length := List.countP_le_length
    omega
  have hnil : t.toList ≠ [] := fun hnil => hne (String.toList_inj.mp hnil)
  have hfirst : ∀ c cs, t.toList = c :: cs → c.isDigit = true := by
    intro c cs hcs
    exact hdigits c (hcs ▸ List.mem_cons_self)
  have hread : digitsFrom 0 false t.toList = some (decimal t) :=
    digitsFrom_of_isDigit hdigits (.inr hnil)
  unfold intOf
  rw [hstrip]
  split
  · next cs hcs => exact absurd (hfirst '-' cs hcs) (by decide)
  · next cs hcs => exact absurd (hfirst '+' cs hcs) (by decide)
  · rw [hread]
    exact if_neg hcount

/-! ## Cuts -/

lemma splitOnce_eq_some {c : Char} {s a b : String} :
    splitOnce c s = some (a, b) ↔ s.toList = a.toList ++ c :: b.toList ∧ c ∉ a.toList := by
  unfold splitOnce
  rw [List.span_eq_takeWhile_dropWhile]
  constructor
  · intro h
    have happ := List.takeWhile_append_dropWhile (p := fun x => decide (x ≠ c)) (l := s.toList)
    split at h
    · cases h
    · next before d rest heq =>
      obtain ⟨hbefore, hrest⟩ := Prod.mk.inj heq
      obtain ⟨rfl, rfl⟩ := Prod.mk.inj (Option.some.inj h)
      have hd : d = c := by
        have hhead := List.head?_dropWhile_not (fun x => decide (x ≠ c)) s.toList
        rw [hrest] at hhead
        simpa using hhead
      rw [String.toList_ofList, String.toList_ofList]
      refine ⟨by rw [← happ, hbefore, hrest, hd], fun hmem => ?_⟩
      rw [← hbefore] at hmem
      simpa using List.mem_takeWhile_imp hmem
  · rintro ⟨hs, ha⟩
    have hne : ∀ x ∈ a.toList, decide (x ≠ c) = true := by
      intro x hx
      exact decide_eq_true fun heq => ha (heq ▸ hx)
    rw [hs, List.takeWhile_append_of_pos hne, List.dropWhile_append_of_pos hne]
    simp

lemma splitOnce_eq_none {c : Char} {s : String} : splitOnce c s = none ↔ c ∉ s.toList := by
  constructor
  · intro h hmem
    obtain ⟨a, b, hs, ha⟩ := List.eq_append_cons_of_mem hmem
    have hsome : splitOnce c s = some (String.ofList a, String.ofList b) :=
      splitOnce_eq_some.mpr (by simpa [String.toList_ofList] using ⟨hs, ha⟩)
    rw [h] at hsome
    cases hsome
  · intro h
    cases hsplit : splitOnce c s with
    | none => rfl
    | some ab =>
      obtain ⟨hs, -⟩ := splitOnce_eq_some.mp (hsplit.trans rfl)
      rw [hs] at h
      simp at h

lemma parseCronRange_iff {base : String} {minimum maximum start stop : ℤ}
    (hstart : minimum ≤ start) (hle : start ≤ stop) (hstop : stop ≤ maximum) :
    parseCronRange base minimum maximum = .ok (start, stop) ↔
      ∃ b : CronBase, b.text = base ∧ b.Spans minimum maximum start stop := by
  constructor
  · intro h
    unfold parseCronRange at h
    split at h
    · next hstar =>
      obtain ⟨rfl, rfl⟩ := Prod.mk.inj (Except.ok.inj h)
      exact ⟨.every, hstar.symm, .every⟩
    · split at h
      · next a b hsplit =>
        obtain ⟨v, hv, h⟩ := except_bind_eq_ok.mp h
        obtain ⟨w, hw, h⟩ := except_bind_eq_ok.mp h
        obtain ⟨rfl, rfl⟩ := Prod.mk.inj (Except.ok.inj h)
        obtain ⟨hs, ha⟩ := splitOnce_eq_some.mp hsplit
        refine ⟨.range a b, ?_, .range hv ha hw hstart hle hstop⟩
        rw [CronBase.text, ← String.toList_inj, hs, String.toList_append, String.toList_append,
          List.append_assoc]
        rfl
      · next hsplit =>
        obtain ⟨v, hv, h⟩ := except_bind_eq_ok.mp h
        obtain ⟨rfl, rfl⟩ := Prod.mk.inj (Except.ok.inj h)
        exact ⟨.single base, rfl, .single hv (splitOnce_eq_none.mp hsplit) hstart hstop⟩
  · rintro ⟨b, rfl, hspans⟩
    cases hspans with
    | every => rw [parseCronRange, CronBase.text, if_pos rfl]
    | @single n v hn hdash hmin hmax =>
      have hstar : n ≠ "*" := by
        rintro rfl
        exact notMem_of_intOf hn (.inr (.inr rfl)) (by decide)
      rw [CronBase.text, parseCronRange, if_neg hstar, splitOnce_eq_none.mpr hdash]
      simp only [hn, bind, Except.bind]
    | @range a b v w ha hdash hb hmin hle hmax =>
      have hsplit : splitOnce '-' (a ++ "-" ++ b) = some (a, b) := by
        refine splitOnce_eq_some.mpr ⟨?_, hdash⟩
        rw [String.toList_append, String.toList_append, List.append_assoc]
        rfl
      have hstar : a ++ "-" ++ b ≠ "*" := by
        intro h
        have hdash : '-' ∈ ("*" : String).toList := by
          rw [← h, String.toList_append, String.toList_append]
          simp
        exact absurd hdash (by decide)
      rw [CronBase.text, parseCronRange, if_neg hstar, hsplit]
      simp only [ha, hb, bind, Except.bind]

/-! ## Parts -/

/-- The values of a part, as the parser lists them. -/
def steps (start stop step : ℤ) : List ℤ :=
  ((List.range (stop - start + 1).toNat).filter fun k => (k : ℤ) % step = 0).map fun k =>
    start + (k : ℤ)

lemma mem_steps {start stop step v : ℤ} (hpos : 1 ≤ step) :
    v ∈ steps start stop step ↔ ∃ i : ℕ, start + i * step ≤ stop ∧ v = start + i * step := by
  simp only [steps, List.mem_map, List.mem_filter, List.bind_eq_flatMap, List.pure_def,
    List.mem_flatMap, List.mem_range, List.mem_singleton, decide_eq_true_eq]
  constructor
  · rintro ⟨k, ⟨⟨n, hn, rfl⟩, hmod⟩, rfl⟩
    obtain ⟨i, hi⟩ := Int.dvd_of_emod_eq_zero hmod
    have hi0 : 0 ≤ i := by
      by_contra hneg
      have hlt : step * i < 0 := mul_neg_of_pos_of_neg (by omega) (by omega)
      omega
    refine ⟨i.toNat, ?_, ?_⟩ <;> rw [Int.toNat_of_nonneg hi0, mul_comm i, ← hi]
    omega
  · rintro ⟨i, hle, rfl⟩
    have hnonneg : 0 ≤ (i : ℤ) * step := mul_nonneg (by omega) (by omega)
    refine ⟨i * step, ⟨⟨((i : ℤ) * step).toNat, by omega, by omega⟩, ?_⟩, rfl⟩
    exact Int.mul_emod_left _ _

/-- How a part is cut at its first slash. -/
inductive StepCut (part : String) : String → ℤ → Prop
  | step {base k : String} {step : ℤ} (hsplit : splitOnce '/' part = some (base, k))
      (hk : intOf k = .ok step) (hpos : 1 ≤ step) : StepCut part base step
  | none (hsplit : splitOnce '/' part = none) : StepCut part part 1

lemma parseCronPart_eq_ok {raw : String} {minimum maximum : ℤ} {values : List ℤ} :
    parseCronPart raw minimum maximum = .ok values ↔
      strip raw ≠ "" ∧ ∃ base start stop step, StepCut (strip raw) base step ∧
        parseCronRange base minimum maximum = .ok (start, stop) ∧
        minimum ≤ start ∧ start ≤ stop ∧ stop ≤ maximum ∧ values = steps start stop step := by
  constructor
  · intro h
    unfold parseCronPart at h
    dsimp only [bind, Except.bind] at h
    split at h
    · cases h
    next hne =>
    refine ⟨hne, ?_⟩
    split at h
    · next base k hsplit =>
      split at h
      · cases h
      next step hk =>
      split at h
      · cases h
      next hstep =>
      split at h
      · cases h
      next range hrange =>
      split at h
      · cases h
      next hbounds =>
      split at h
      · cases h
      next hascending =>
      obtain rfl := Except.ok.inj h
      exact ⟨base, range.1, range.2, step, .step hsplit hk (by omega), hrange, by omega, by omega,
        by omega, rfl⟩
    · next hsplit =>
      split at h
      · cases h
      next range hrange =>
      split at h
      · cases h
      next hbounds =>
      split at h
      · cases h
      next hascending =>
      obtain rfl := Except.ok.inj h
      exact ⟨_, range.1, range.2, 1, .none hsplit, hrange, by omega, by omega, by omega, rfl⟩
  · rintro ⟨hne, base, start, stop, step, hcut, hrange, hmin, hle, hmax, rfl⟩
    have hbounds : ¬ (start < minimum ∨ maximum < start ∨ stop < minimum ∨ maximum < stop) := by
      omega
    have hascending : ¬ stop < start := by omega
    cases hcut with
    | @step base k step hsplit hk hpos =>
      have hstep : ¬ step < 1 := by omega
      simp only [parseCronPart, if_neg hne, hsplit, hk, hrange, bind, Except.bind, if_neg hstep,
        if_neg hbounds, if_neg hascending, steps]
    | none hsplit =>
      simp only [parseCronPart, if_neg hne, hsplit, hrange, bind, Except.bind, if_neg hbounds,
        if_neg hascending, steps]

section Parts

variable {minimum maximum start stop step : ℤ} {b : CronBase} {p : CronPart}

lemma CronBase.Spans.bounds (h : b.Spans minimum maximum start stop) (hb : minimum ≤ maximum) :
    minimum ≤ start ∧ start ≤ stop ∧ stop ≤ maximum := by
  cases h with
  | every => exact ⟨le_rfl, hb, le_rfl⟩
  | single hn hdash hmin hmax => exact ⟨hmin, le_rfl, hmax⟩
  | range ha hdash hb' hmin hle hmax => exact ⟨hmin, hle, hmax⟩

lemma CronBase.Spans.notMem_text (h : b.Spans minimum maximum start stop) {c : Char}
    (hc : c = ',' ∨ c = '/') : c ∉ b.text.toList := by
  have hsep : c = ',' ∨ c = '/' ∨ c = '*' := hc.imp_right .inl
  cases h with
  | every => rcases hc with rfl | rfl <;> decide
  | single hn hdash hmin hmax => exact notMem_of_intOf hn hsep
  | range ha hdash hb hmin hle hmax =>
    rw [CronBase.text, String.toList_append, String.toList_append, List.mem_append,
      List.mem_append]
    rintro ((hmem | hmem) | hmem)
    · exact notMem_of_intOf ha hsep hmem
    · rcases hc with rfl | rfl <;> exact absurd hmem (by decide)
    · exact notMem_of_intOf hb hsep hmem

lemma CronBase.Spans.text_ne (h : b.Spans minimum maximum start stop) : b.text ≠ "" := by
  cases h with
  | every => decide
  | single hn hdash hmin hmax =>
    rintro rfl
    exact intOf_empty _ hn
  | @range first last _ _ ha hdash hb hmin hle hmax =>
    intro hempty
    have hmem : '-' ∈ (CronBase.text (.range first last)).toList := by
      rw [CronBase.text, String.toList_append, String.toList_append]
      simp
    rw [hempty] at hmem
    cases hmem

lemma StepIs.pos {k : Option String} (h : StepIs k step) : 1 ≤ step := by
  cases h with
  | one => exact le_rfl
  | of hk hpos => exact hpos

lemma CronPart.toList_text_some (b : CronBase) (k : String) :
    (CronPart.text ⟨b, some k⟩).toList = b.text.toList ++ '/' :: k.toList := by
  rw [CronPart.text, String.toList_append, String.toList_append, List.append_assoc]
  rfl

lemma CronPart.Stands.notMem_text (h : p.Stands minimum maximum start stop step) :
    ',' ∉ p.text.toList := by
  obtain ⟨b, k⟩ := p
  have hbase := h.base.notMem_text (.inl rfl)
  cases k with
  | none => exact hbase
  | some k =>
    cases h.step with
    | of hk hpos =>
      rw [CronPart.toList_text_some, List.mem_append, List.mem_cons]
      rintro (hmem | hmem | hmem)
      · exact hbase hmem
      · exact absurd hmem (by decide)
      · exact notMem_of_intOf hk (.inl rfl) hmem

lemma stepCut_iff {raw : String} (hb : minimum ≤ maximum) :
    (∃ base, StepCut raw base step ∧ parseCronRange base minimum maximum = .ok (start, stop) ∧
        minimum ≤ start ∧ start ≤ stop ∧ stop ≤ maximum) ↔
      ∃ p : CronPart, p.text = raw ∧ p.Stands minimum maximum start stop step := by
  constructor
  · rintro ⟨base, hcut, hrange, hmin, hle, hmax⟩
    obtain ⟨b, rfl, hspans⟩ := (parseCronRange_iff hmin hle hmax).mp hrange
    cases hcut with
    | @step _ k _ hsplit hk hpos =>
      refine ⟨⟨b, some k⟩, ?_, hspans, .of hk hpos⟩
      rw [← String.toList_inj, CronPart.toList_text_some]
      exact (splitOnce_eq_some.mp hsplit).1.symm
    | none hsplit => exact ⟨⟨b, none⟩, rfl, hspans, .one⟩
  · rintro ⟨⟨b, k⟩, rfl, hstands⟩
    obtain ⟨hmin, hle, hmax⟩ := hstands.base.bounds hb
    have hslash := hstands.base.notMem_text (.inr rfl)
    refine ⟨b.text, ?_, (parseCronRange_iff hmin hle hmax).mpr ⟨b, rfl, hstands.base⟩, hmin, hle,
      hmax⟩
    cases hstands.step with
    | one => exact .none (splitOnce_eq_none.mpr hslash)
    | of hk hpos =>
      exact .step (splitOnce_eq_some.mpr ⟨CronPart.toList_text_some _ _, hslash⟩) hk hpos

lemma parseCronPart_iff {raw : String} {values : List ℤ} (hb : minimum ≤ maximum)
    (hraw : strip raw = raw) :
    parseCronPart raw minimum maximum = .ok values ↔
      ∃ p : CronPart, p.text = raw ∧ ∃ start stop step,
        p.Stands minimum maximum start stop step ∧ values = steps start stop step := by
  rw [parseCronPart_eq_ok, hraw]
  constructor
  · rintro ⟨-, base, start, stop, step, hcut, hrange, hmin, hle, hmax, rfl⟩
    obtain ⟨p, htext, hstands⟩ := (stepCut_iff hb).mp ⟨base, hcut, hrange, hmin, hle, hmax⟩
    exact ⟨p, htext, start, stop, step, hstands, rfl⟩
  · rintro ⟨p, rfl, start, stop, step, hstands, rfl⟩
    obtain ⟨base, hcut, hrange, hmin, hle, hmax⟩ := (stepCut_iff hb).mpr ⟨p, rfl, hstands⟩
    refine ⟨?_, base, start, stop, step, hcut, hrange, hmin, hle, hmax, rfl⟩
    obtain ⟨b, k⟩ := p
    cases k with
    | none => exact hstands.base.text_ne
    | some k =>
      intro hempty
      have hlist := congrArg String.toList hempty
      rw [CronPart.toList_text_some] at hlist
      simp at hlist

end Parts

/-! ## Fields -/

section Fields

variable {minimum maximum : ℤ} {parts : List CronPart}

/-- A text without white space. -/
def Word (s : String) : Prop := ∀ c ∈ s.toList, isSpace c = false

lemma mem_intercalate {sep : List Char} {ls : List (List Char)} {l : List Char} (h : l ∈ ls)
    {c : Char} (hc : c ∈ l) : c ∈ sep.intercalate ls := by
  induction ls with
  | nil => cases h
  | cons first rest ih =>
    cases rest with
    | nil =>
      obtain rfl := List.mem_singleton.mp h
      rwa [List.intercalate_singleton]
    | cons second rest =>
      rw [List.intercalate_cons_cons, List.mem_append, List.mem_append]
      rcases List.mem_cons.mp h with rfl | h
      · exact .inl (.inl hc)
      · exact .inr (ih h)

lemma word_of_mem_splitAll {value piece : String} (hvalue : Word value)
    (h : piece ∈ splitAll ',' value) : Word piece := by
  obtain ⟨l, hl, rfl⟩ := List.mem_map.mp h
  intro c hc
  rw [String.toList_ofList] at hc
  have hjoin : [','].intercalate (value.toList.splitOn ',') = value.toList :=
    List.intercalate_splitOn ','
  refine hvalue c ?_
  rw [← hjoin]
  exact mem_intercalate hl hc

lemma splitAll_fieldText (h : IsField minimum maximum parts) :
    splitAll ',' (fieldText parts) = parts.map CronPart.text := by
  rw [splitAll, fieldText, String.toList_ofList, List.splitOn_intercalate, List.map_map]
  · exact List.map_congr_left fun p _ => String.ofList_toList
  · intro l hl
    obtain ⟨p, hp, rfl⟩ := List.mem_map.mp hl
    obtain ⟨start, stop, step, hstands⟩ := h.2 p hp
    exact hstands.notMem_text
  · simpa using h.1

lemma mapM_eq_ok_map {α β ε : Type} {f : α → Except ε β} {g : α → β} {l : List α}
    (h : ∀ x ∈ l, f x = .ok (g x)) : l.mapM f = .ok (l.map g) := by
  induction l with
  | nil => rfl
  | cons x l ih =>
    rw [List.mapM_cons, h x List.mem_cons_self, ih fun y hy => h y (List.mem_cons_of_mem _ hy)]
    rfl

lemma parseCronField_fieldText (sundayAlias : Bool) (hb : minimum ≤ maximum)
    (h : IsField minimum maximum parts) (hword : Word (fieldText parts)) :
    ∃ values, parseCronField (fieldText parts) minimum maximum sundayAlias = .ok values ∧
      values ≠ [] ∧ ∀ v, v ∈ values ↔ Denoted minimum maximum sundayAlias parts v := by
  have hpart : ∀ p ∈ parts, ∀ start stop step, p.Stands minimum maximum start stop step →
      parseCronPart p.text minimum maximum = .ok (steps start stop step) := by
    intro p hp start stop step hstands
    refine (parseCronPart_iff hb (strip_eq_self (word_of_mem_splitAll hword ?_))).mpr
      ⟨p, rfl, start, stop, step, hstands, rfl⟩
    rw [splitAll_fieldText h]
    exact List.mem_map_of_mem hp
  have hread : ∀ p ∈ parts, parseCronPart p.text minimum maximum =
      .ok ((parseCronPart p.text minimum maximum).toOption.getD []) := by
    intro p hp
    obtain ⟨start, stop, step, hstands⟩ := h.2 p hp
    rw [hpart p hp start stop step hstands]
    rfl
  have hmap : (parts.map CronPart.text).mapM (fun part => parseCronPart part minimum maximum) =
      .ok ((parts.map CronPart.text).map fun part =>
        (parseCronPart part minimum maximum).toOption.getD []) := by
    refine mapM_eq_ok_map fun part hpart => ?_
    obtain ⟨p, hp, rfl⟩ := List.mem_map.mp hpart
    exact hread p hp
  refine ⟨_, by rw [parseCronField, splitAll_fieldText h, hmap]; rfl, ?_⟩
  have hmem : ∀ v, v ∈ ((parts.map CronPart.text).map fun part =>
      (parseCronPart part minimum maximum).toOption.getD []).flatten.map (aliased sundayAlias) ↔
      Denoted minimum maximum sundayAlias parts v := by
    intro v
    simp only [List.mem_map, List.mem_flatten, List.map_map]
    constructor
    · rintro ⟨item, ⟨values, ⟨p, hp, rfl⟩, hitem⟩, rfl⟩
      obtain ⟨start, stop, step, hstands⟩ := h.2 p hp
      simp only [Function.comp_apply, hpart p hp start stop step hstands] at hitem
      obtain ⟨i, hle, rfl⟩ := (mem_steps hstands.step.pos).mp hitem
      exact ⟨p, hp, start, stop, step, hstands, i, hle, rfl⟩
    · rintro ⟨p, hp, start, stop, step, hstands, i, hle, rfl⟩
      refine ⟨_, ⟨_, ⟨p, hp, rfl⟩, ?_⟩, rfl⟩
      simp only [Function.comp_apply, hpart p hp start stop step hstands]
      exact (mem_steps hstands.step.pos).mpr ⟨i, hle, rfl⟩
  refine ⟨?_, hmem⟩
  obtain ⟨p, hp⟩ := List.exists_mem_of_ne_nil parts h.1
  obtain ⟨start, stop, step, hstands⟩ := h.2 p hp
  have hle := (hstands.base.bounds hb).2.1
  refine List.ne_nil_of_mem ((hmem (aliased sundayAlias (start + (0 : ℕ) * step))).mpr
    ⟨p, hp, start, stop, step, hstands, 0, by simpa using hle, rfl⟩)

lemma isField_of_parseCronField {value : String} {sundayAlias : Bool} {values : List ℤ}
    (hb : minimum ≤ maximum) (hword : Word value)
    (h : parseCronField value minimum maximum sundayAlias = .ok values) :
    ∃ parts, fieldText parts = value ∧ IsField minimum maximum parts := by
  obtain ⟨lists, hlists, -⟩ := except_bind_eq_ok.mp h
  have hforall := forall₂_of_mapM hlists
  have hexists : ∀ piece ∈ splitAll ',' value, ∃ p : CronPart, p.text = piece ∧
      ∃ start stop step, p.Stands minimum maximum start stop step := by
    intro piece hpiece
    obtain ⟨i, hi, rfl⟩ := List.getElem_of_mem hpiece
    have hparse := hforall.get hi (hforall.length_eq ▸ hi)
    obtain ⟨p, htext, start, stop, step, hstands, -⟩ := (parseCronPart_iff hb
      (strip_eq_self (word_of_mem_splitAll hword hpiece))).mp hparse
    exact ⟨p, htext, start, stop, step, hstands⟩
  choose! part hpart using hexists
  refine ⟨(splitAll ',' value).map part, ?_, ?_, ?_⟩
  · have htexts : ((splitAll ',' value).map part).map (fun p => p.text.toList) =
        value.toList.splitOn ',' := by
      rw [List.map_map, splitAll, List.map_map]
      refine (List.map_congr_left fun l hl => ?_).trans (List.map_id _)
      have htext := (hpart (String.ofList l) (List.mem_map_of_mem hl)).1
      simp only [Function.comp_apply, htext, String.toList_ofList, id_eq]
    rw [fieldText, htexts, List.intercalate_splitOn, String.ofList_toList]
  · simp [splitAll]
  · intro p hp
    obtain ⟨piece, hpiece, rfl⟩ := List.mem_map.mp hp
    exact (hpart piece hpiece).2

end Fields

/-! ## Expressions -/

lemma splitWords_strip (s : String) : splitWords (strip s) = splitWords s := by
  rw [splitWords_eq, wordsOf_strip, splitWords_eq]

lemma word_of_mem_splitWords {s w : String} (h : w ∈ splitWords s) : Word w := by
  obtain ⟨cs, hcs, rfl⟩ := List.mem_map.mp h
  intro c hc
  rw [String.toList_ofList] at hc
  exact (mem_wordsOf hcs).2 c hc

lemma parseCronExpression_of_isExpression {s : String} {e : FieldSyntax} (h : IsExpression s e) :
    ∃ fields, parseCronExpression s = .ok fields ∧ Denotes e fields := by
  have hword : ∀ w ∈ e.texts, Word w := fun w hw => word_of_mem_splitWords (h.words ▸ hw)
  simp only [FieldSyntax.texts, List.mem_cons, List.not_mem_nil, or_false, forall_eq_or_imp,
    forall_eq] at hword
  obtain ⟨hminutes, hhours, hdays, hmonths, hweekdays⟩ := hword
  obtain ⟨minutes, hminutes, hm⟩ := parseCronField_fieldText false (by decide) h.minutes hminutes
  obtain ⟨hours, hhours, hh⟩ := parseCronField_fieldText false (by decide) h.hours hhours
  obtain ⟨days, hdays, hd⟩ := parseCronField_fieldText false (by decide) h.days hdays
  obtain ⟨months, hmonths, hmo⟩ := parseCronField_fieldText false (by decide) h.months hmonths
  obtain ⟨weekdays, hweekdays, hw⟩ := parseCronField_fieldText true (by decide) h.weekdays hweekdays
  refine ⟨⟨minutes, hours, days, months, weekdays⟩, ?_, hm, hh, hd, hmo, hw⟩
  rw [parseCronExpression, splitWords_strip, h.words, FieldSyntax.texts]
  simp only [hminutes, hhours, hdays, hmonths, hweekdays, bind, Except.bind]

lemma isExpression_of_parseCronExpression {s : String} {fields : CronFields}
    (h : parseCronExpression s = .ok fields) : ∃ e, IsExpression s e := by
  unfold parseCronExpression at h
  rw [splitWords_strip] at h
  split at h
  · next minutes hours days months weekdays hsplit =>
    have hword : ∀ w ∈ splitWords s, Word w := fun w hw => word_of_mem_splitWords hw
    simp only [hsplit, List.mem_cons, List.not_mem_nil, or_false, forall_eq_or_imp,
      forall_eq] at hword
    obtain ⟨hwordm, hwordh, hwordd, hwordmo, hwordw⟩ := hword
    obtain ⟨_, hminutes, h⟩ := except_bind_eq_ok.mp h
    obtain ⟨_, hhours, h⟩ := except_bind_eq_ok.mp h
    obtain ⟨_, hdays, h⟩ := except_bind_eq_ok.mp h
    obtain ⟨_, hmonths, h⟩ := except_bind_eq_ok.mp h
    obtain ⟨_, hweekdays, -⟩ := except_bind_eq_ok.mp h
    obtain ⟨m, rfl, hm⟩ := isField_of_parseCronField (by decide) hwordm hminutes
    obtain ⟨hr, rfl, hh⟩ := isField_of_parseCronField (by decide) hwordh hhours
    obtain ⟨d, rfl, hd⟩ := isField_of_parseCronField (by decide) hwordd hdays
    obtain ⟨mo, rfl, hmo⟩ := isField_of_parseCronField (by decide) hwordmo hmonths
    obtain ⟨w, rfl, hw⟩ := isField_of_parseCronField (by decide) hwordw hweekdays
    exact ⟨⟨m, hr, d, mo, w⟩, hsplit, hm, hh, hd, hmo, hw⟩
  · cases h

/-! ## Validation -/

lemma mem_of_mem_intercalate {sep : List Char} {ls : List (List Char)} {c : Char}
    (h : c ∈ sep.intercalate ls) : c ∈ sep ∨ ∃ l ∈ ls, c ∈ l := by
  induction ls with
  | nil => cases h
  | cons first rest ih =>
    cases rest with
    | nil =>
      rw [List.intercalate_singleton] at h
      exact .inr ⟨first, List.mem_cons_self, h⟩
    | cons second rest =>
      rw [List.intercalate_cons_cons, List.mem_append, List.mem_append] at h
      rcases h with (h | h) | h
      · exact .inr ⟨first, List.mem_cons_self, h⟩
      · exact .inl h
      · exact (ih h).imp_right fun ⟨l, hl, hc⟩ => ⟨l, List.mem_cons_of_mem _ hl, hc⟩

lemma plus_notMem_fieldText {parts : List CronPart}
    (h : ∀ p ∈ parts, ∀ t ∈ p.base.numbers ++ p.step.toList, PlainNumber t) :
    '+' ∉ (fieldText parts).toList := by
  have hnumber : ∀ t, PlainNumber t → '+' ∉ t.toList := by
    intro t ht hmem
    exact absurd (ht.2 _ hmem) (by decide)
  have hbase : ∀ b : CronBase, (∀ t ∈ b.numbers, PlainNumber t) → '+' ∉ b.text.toList := by
    intro b hb
    cases b with
    | every => decide
    | single n => exact hnumber n (hb n (by simp [CronBase.numbers]))
    | range first last =>
      have hfirst := hnumber first (hb first (by simp [CronBase.numbers]))
      have hlast := hnumber last (hb last (by simp [CronBase.numbers]))
      simp [CronBase.text, String.toList_append, hfirst, hlast]
  rw [fieldText, String.toList_ofList]
  intro hmem
  obtain hsep | ⟨l, hl, hmem⟩ := mem_of_mem_intercalate hmem
  · exact absurd hsep (by decide)
  obtain ⟨⟨b, k⟩, hp, rfl⟩ := List.mem_map.mp hl
  have hb := hbase b fun t ht => h _ hp t (List.mem_append_left _ ht)
  cases k with
  | none => exact hb hmem
  | some k =>
    rw [CronPart.toList_text_some, List.mem_append, List.mem_cons] at hmem
    rcases hmem with hmem | hmem | hmem
    · exact hb hmem
    · exact absurd hmem (by decide)
    · exact hnumber k (h _ hp k (List.mem_append_right _ (by simp))) hmem

lemma isOk_validateCronExpression (s : String) :
    (validateCronExpression s).isOk = (parseCronExpression s).isOk := by
  unfold validateCronExpression
  cases parseCronExpression s <;> rfl

/-- The validator accepts the expressions of the grammar and no others; what it returns is
accepted as it is and means the same; an accepted expression is read as the nonempty sets that it
denotes; and in ASCII digits numbers have their usual value, up to the digits that `int()` takes. -/
theorem validate_accepts_grammar (s : String) :
    ((validateCronExpression s).isOk = true ↔ ∃ e, IsExpression s e) ∧
      (∀ t, validateCronExpression s = .ok t →
        validateCronExpression t = .ok t ∧ parseCronExpression t = parseCronExpression s) ∧
      (∀ e, IsExpression s e → ∃ fields, parseCronExpression s = .ok fields ∧ Denotes e fields) ∧
      ∀ t, PlainNumber t → t.toList.length ≤ maxStrDigits → intOf t = .ok (decimal t) := by
  refine ⟨⟨fun h => ?_, fun h => ?_⟩, fun t h => ?_, fun e he => ?_, fun t h hlimit => ?_⟩
  · rw [isOk_validateCronExpression] at h
    cases hparse : parseCronExpression s with
    | error error =>
      rw [hparse] at h
      cases h
    | ok fields => exact isExpression_of_parseCronExpression hparse
  · obtain ⟨e, he⟩ := h
    obtain ⟨fields, hparse, -⟩ := parseCronExpression_of_isExpression he
    rw [isOk_validateCronExpression, hparse]
    rfl
  · have hsame := parse_of_validate h
    refine ⟨?_, hsame⟩
    obtain ⟨fields, hparse, rfl⟩ := except_map_eq_ok.mp h
    rw [validateCronExpression, hsame, hparse, splitWords_strip_joinWords]
    rfl
  · exact parseCronExpression_of_isExpression he
  · exact intOf_of_plainNumber h hlimit

/-- A sign before a number is accepted. -/
theorem signed_minutes_accepted :
    ¬ ∀ s, (validateCronExpression s).isOk = true ↔
      ∃ e, IsExpression s e ∧ ∀ t ∈ e.numbers, PlainNumber t := by
  intro h
  obtain ⟨e, he, hplain⟩ := (h "+5 * * * *").mp (by decide +kernel)
  have hminutes : fieldText e.minutes = "+5" := by
    have hwords : splitWords "+5 * * * *" = ["+5", "*", "*", "*", "*"] := by decide +kernel
    have htexts := he.words.symm.trans hwords
    exact (List.cons.inj htexts).1
  have hplus : '+' ∈ (fieldText e.minutes).toList := by
    rw [hminutes]
    decide
  have hnumbers : ∀ p ∈ e.minutes, ∀ t ∈ p.base.numbers ++ p.step.toList, PlainNumber t := by
    intro p hp t ht
    refine hplain t (List.mem_flatMap.mpr ⟨p, ?_, ht⟩)
    simp only [List.mem_append, hp, true_or]
  exact plus_notMem_fieldText hnumbers hplus

end Cron

end CocoonSit
