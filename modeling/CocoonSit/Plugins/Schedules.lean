import CocoonSit.Plugins.CronRuns
import CocoonSit.Plugins.ManagerIsolation

/-!
# Setting a schedule

`update_user_event_schedule` lets a cron expression pass that `validate_cron_expression` accepts,
saves it and has the plugin manager note its next run; the manager's own loop looks for the next
runs of saved schedules as well.  The expression is accepted field by field, whereas a run needs a
day whose month, day and weekday are named together, within the year that is searched.
-/

namespace CocoonSit

namespace Cron

/-! ## Words -/

/-- The words of a text, as characters. -/
def wordsOf (cs : List Char) : List (List Char) := (cs.splitOnP isSpace).filter (· ≠ [])

/-- `" ".join(fields)`. -/
def joinWords (words : List String) : String :=
  String.ofList ([' '].intercalate (words.map String.toList))

lemma splitWords_eq (s : String) : splitWords s = (wordsOf s.toList).map String.ofList := rfl

lemma wordsOf_append_cons {c : Char} (hc : isSpace c = true) (before after : List Char) :
    wordsOf (before ++ c :: after) = wordsOf before ++ wordsOf after := by
  rw [wordsOf, List.splitOnP_append_cons _ _ hc, List.filter_append]
  rfl

lemma wordsOf_word {cs : List Char} (hne : cs ≠ []) (h : ∀ c ∈ cs, isSpace c = false) :
    wordsOf cs = [cs] := by
  rw [wordsOf, List.splitOnP_eq_singleton h]
  simp [hne]

lemma wordsOf_strip (s : String) : wordsOf (strip s).toList = wordsOf s.toList := by
  have hleft : ∀ cs : List Char, wordsOf (cs.dropWhile isSpace) = wordsOf cs := by
    intro cs
    induction cs with
    | nil => rfl
    | cons c cs ih =>
      by_cases hc : isSpace c = true
      · rw [List.dropWhile_cons_of_pos hc, ih]
        exact (wordsOf_append_cons hc [] cs).symm
      · rw [List.dropWhile_cons_of_neg hc]
  have hright : ∀ cs : List Char, wordsOf (cs.rdropWhile isSpace) = wordsOf cs := by
    intro cs
    induction cs using List.reverseRecOn with
    | nil => rfl
    | append_singleton cs c ih =>
      by_cases hc : isSpace c = true
      · rw [List.rdropWhile_concat_pos _ _ _ hc, ih, wordsOf_append_cons hc cs []]
        simp [wordsOf]
      · rw [List.rdropWhile_concat_neg _ _ _ hc]
  have hstrip : (strip s).toList = (s.toList.dropWhile isSpace).rdropWhile isSpace :=
    String.toList_ofList
  rw [hstrip, hright, hleft]

lemma mem_wordsOf {cs w : List Char} (h : w ∈ wordsOf cs) :
    w ≠ [] ∧ ∀ c ∈ w, isSpace c = false := by
  have hno : ∀ w ∈ cs.splitOnP isSpace, ∀ c ∈ w, isSpace c = false := by
    clear h
    induction cs with
    | nil => simp
    | cons c cs ih =>
      rw [List.splitOnP_cons_eq_if_modifyHead]
      split
      · intro w hw
        rcases List.mem_cons.mp hw with rfl | hw
        · simp
        · exact ih w hw
      · next hc =>
        cases hsplit : cs.splitOnP isSpace with
        | nil => exact absurd hsplit (List.splitOnP_ne_nil _ _)
        | cons first rest =>
          rw [hsplit] at ih
          intro w hw
          rcases List.mem_cons.mp hw with rfl | hw
          · intro c' hc'
            rcases List.mem_cons.mp hc' with rfl | hc'
            · simpa using hc
            · exact ih first List.mem_cons_self c' hc'
          · exact ih w (List.mem_cons_of_mem _ hw)
  obtain ⟨hmem, hne⟩ := List.mem_filter.mp h
  exact ⟨by simpa using hne, hno w hmem⟩

lemma wordsOf_intercalate {words : List (List Char)}
    (h : ∀ w ∈ words, w ≠ [] ∧ ∀ c ∈ w, isSpace c = false) :
    wordsOf ([' '].intercalate words) = words := by
  induction words with
  | nil => rfl
  | cons w words ih =>
    obtain ⟨hne, hword⟩ := h w List.mem_cons_self
    have hrest := ih fun w hw => h w (List.mem_cons_of_mem _ hw)
    cases words with
    | nil => rw [List.intercalate_singleton, wordsOf_word hne hword]
    | cons w' words =>
      rw [List.intercalate_cons_cons, List.append_assoc, List.singleton_append,
        wordsOf_append_cons (by decide), wordsOf_word hne hword, hrest]
      rfl

lemma splitWords_strip_joinWords (s : String) :
    splitWords (strip (joinWords (splitWords (strip s)))) = splitWords (strip s) := by
  have hwords : (splitWords (strip s)).map String.toList = wordsOf s.toList := by
    rw [splitWords_eq, wordsOf_strip, List.map_map]
    exact List.map_id'' (fun _ => String.toList_ofList) _
  rw [splitWords_eq, wordsOf_strip, joinWords, String.toList_ofList, hwords,
    wordsOf_intercalate fun w hw => mem_wordsOf hw, splitWords_eq, wordsOf_strip]

/-! ## Validation -/

def validateCronExpression (expression : String) : Except PyError String :=
  (parseCronExpression expression).map fun _ => joinWords (splitWords (strip expression))

lemma parse_of_validate {expression normalized : String}
    (h : validateCronExpression expression = .ok normalized) :
    parseCronExpression normalized = parseCronExpression expression := by
  obtain ⟨fields, -, rfl⟩ := except_map_eq_ok.mp h
  unfold parseCronExpression
  rw [splitWords_strip_joinWords]

/-! ## What is accepted -/

/-- Values of a field: there are some, and they are in its range. -/
def InRange (values : List ℤ) (minimum maximum : ℤ) : Prop :=
  values ≠ [] ∧ ∀ v ∈ values, minimum ≤ v ∧ v ≤ maximum

lemma inRange_steps {start stop step minimum maximum : ℤ} (hmin : minimum ≤ start)
    (hle : start ≤ stop) (hmax : stop ≤ maximum) :
    InRange (((List.range (stop - start + 1).toNat).filter fun k => (k : ℤ) % step = 0).map fun k =>
      start + (k : ℤ)) minimum maximum := by
  constructor
  · refine List.ne_nil_of_mem (a := start + 0) (List.mem_map_of_mem ?_)
    simp only [List.mem_filter, List.bind_eq_flatMap, List.pure_def, List.mem_flatMap,
      List.mem_range, List.mem_singleton]
    refine ⟨⟨0, by omega, rfl⟩, by simp⟩
  · intro v hv
    obtain ⟨k, hk, rfl⟩ := List.mem_map.mp hv
    simp only [List.mem_filter, List.bind_eq_flatMap, List.pure_def, List.mem_flatMap,
      List.mem_range, List.mem_singleton] at hk
    obtain ⟨⟨n, hn, rfl⟩, -⟩ := hk
    omega

lemma inRange_parseCronPart {part : String} {minimum maximum : ℤ} {values : List ℤ}
    (h : parseCronPart part minimum maximum = .ok values) : InRange values minimum maximum := by
  unfold parseCronPart at h
  dsimp only [bind, Except.bind] at h
  split at h
  · cases h
  · split at h
    · split at h
      · cases h
      · split at h
        · cases h
        · split at h
          · cases h
          · split at h
            · cases h
            · split at h
              · cases h
              · next hrange hascending =>
                obtain rfl := Except.ok.inj h
                exact inRange_steps (by omega) (by omega) (by omega)
    · split at h
      · cases h
      · split at h
        · cases h
        · split at h
          · cases h
          · next hrange hascending =>
            obtain rfl := Except.ok.inj h
            exact inRange_steps (by omega) (by omega) (by omega)

lemma forall₂_of_mapM {α β ε : Type} {f : α → Except ε β} {l : List α} {ys : List β}
    (h : l.mapM f = .ok ys) : List.Forall₂ (fun x y => f x = .ok y) l ys := by
  induction l generalizing ys with
  | nil =>
    obtain rfl := Except.ok.inj h
    exact .nil
  | cons x l ih =>
    rw [List.mapM_cons] at h
    obtain ⟨y, hy, h⟩ := except_bind_eq_ok.mp h
    obtain ⟨ys', hys', h⟩ := except_bind_eq_ok.mp h
    obtain rfl := Except.ok.inj h
    exact .cons hy (ih hys')

lemma inRange_parseCronField {value : String} {minimum maximum : ℤ} {values : List ℤ}
    (h : parseCronField value minimum maximum false = .ok values) :
    InRange values minimum maximum := by
  unfold parseCronField at h
  obtain ⟨parts, hparts, h⟩ := except_bind_eq_ok.mp h
  obtain rfl := Except.ok.inj h
  have hforall := forall₂_of_mapM hparts
  have hid : (fun item : ℤ => if false = true ∧ item = 7 then 0 else item) = id := by
    funext item
    simp
  rw [hid, List.map_id]
  have hpart : ∀ values ∈ parts, InRange values minimum maximum := by
    intro values hvalues
    obtain ⟨i, hi, rfl⟩ := List.getElem_of_mem hvalues
    exact inRange_parseCronPart (hforall.get (hforall.length_eq ▸ hi) hi)
  constructor
  · -- a field has at least one part, and a part a value
    have hne : parts ≠ [] := by
      rintro rfl
      have hnil := hforall.length_eq
      simp [splitAll, List.splitOn_eq_splitOnP] at hnil
    obtain ⟨first, rest, rfl⟩ := List.exists_cons_of_ne_nil hne
    rw [List.flatten_cons]
    exact List.append_ne_nil_of_left_ne_nil (hpart first List.mem_cons_self).1 _
  · intro v hv
    obtain ⟨values, hvalues, hv⟩ := List.mem_flatten.mp hv
    exact (hpart values hvalues).2 v hv

lemma inRange_of_parse {expression : String} {fields : CronFields}
    (h : parseCronExpression expression = .ok fields) :
    InRange fields.minutes 0 59 ∧ InRange fields.hours 0 23 := by
  unfold parseCronExpression at h
  split at h
  · obtain ⟨minutes, hminutes, h⟩ := except_bind_eq_ok.mp h
    obtain ⟨hours, hhours, h⟩ := except_bind_eq_ok.mp h
    obtain ⟨days, -, h⟩ := except_bind_eq_ok.mp h
    obtain ⟨months, -, h⟩ := except_bind_eq_ok.mp h
    obtain ⟨weekdays, -, h⟩ := except_bind_eq_ok.mp h
    obtain rfl := Except.ok.inj h
    exact ⟨inRange_parseCronField hminutes, inRange_parseCronField hhours⟩
  · cases h

/-! ## Days of an expression -/

/-- The day's month, day and weekday are all named. -/
def DayNamed (fields : CronFields) (dayNumber : ℤ) : Prop :=
  (monthAndDay dayNumber).1 ∈ fields.months ∧ (monthAndDay dayNumber).2 ∈ fields.days ∧
    (dayNumber + 4) % 7 ∈ fields.weekdays

instance (fields : CronFields) (dayNumber : ℤ) : Decidable (DayNamed fields dayNumber) :=
  inferInstanceAs (Decidable (_ ∧ _))

/-- A time of day, in minutes, that is named. -/
def TimeNamed (fields : CronFields) (time : ℤ) : Prop :=
  ∃ hour ∈ fields.hours, ∃ minute ∈ fields.minutes, time = 60 * hour + minute

/-- One of the 365 days after the first minute's is named; or that day is and a time from the first
minute on, or the day 366 days later and a time up to it. -/
def NamesDayWithinYear (fields : CronFields) (first : ℤ) : Prop :=
  ∃ dayNumber, DayNamed fields dayNumber ∧
    (first / 1440 < dayNumber ∧ dayNumber ≤ first / 1440 + 365 ∨
      dayNumber = first / 1440 ∧ (∃ time, TimeNamed fields time ∧ first % 1440 ≤ time) ∨
      dayNumber = first / 1440 + 366 ∧ ∃ time, TimeNamed fields time ∧ time ≤ first % 1440)

variable {fields : CronFields}

lemma matches_iff {minute : ℤ} : fields.matches minute = true ↔
    minute % 60 ∈ fields.minutes ∧ minute / 60 % 24 ∈ fields.hours ∧
      DayNamed fields (minute / 1440) := by
  simp only [CronFields.matches, Bool.and_eq_true, decide_eq_true_eq, DayNamed, and_assoc]
  refine and_congr_right fun _ => and_congr_right fun _ => ?_
  rw [and_left_comm]

lemma matches_of_named {dayNumber hour minute : ℤ} (hminutes : InRange fields.minutes 0 59)
    (hhours : InRange fields.hours 0 23) (hday : DayNamed fields dayNumber)
    (hhour : hour ∈ fields.hours) (hminute : minute ∈ fields.minutes) :
    fields.matches (dayNumber * 1440 + (60 * hour + minute)) = true := by
  have h := hhours.2 hour hhour
  have m := hminutes.2 minute hminute
  have hm : (dayNumber * 1440 + (60 * hour + minute)) % 60 = minute := by omega
  have hh : (dayNumber * 1440 + (60 * hour + minute)) / 60 % 24 = hour := by omega
  have hd : (dayNumber * 1440 + (60 * hour + minute)) / 1440 = dayNumber := by omega
  rw [matches_iff, hm, hh, hd]
  exact ⟨hminute, hhour, hday⟩

lemma exists_matches_iff (hminutes : InRange fields.minutes 0 59)
    (hhours : InRange fields.hours 0 23) {first : ℤ} :
    (∃ m, first ≤ m ∧ m ≤ first + 366 * 1440 ∧ fields.matches m = true) ↔
      NamesDayWithinYear fields first := by
  constructor
  · rintro ⟨m, hfirst, hlast, hmatches⟩
    obtain ⟨hminute, hhour, hday⟩ := matches_iff.mp hmatches
    have htime : TimeNamed fields (m % 1440) := ⟨_, hhour, _, hminute, by omega⟩
    refine ⟨m / 1440, hday, ?_⟩
    rcases lt_trichotomy (m / 1440) (first / 1440) with h | h | h
    · omega
    · exact .inr (.inl ⟨h, m % 1440, htime, by omega⟩)
    · rcases le_or_gt (m / 1440) (first / 1440 + 365) with h' | h'
      · exact .inl ⟨h, h'⟩
      · exact .inr (.inr ⟨by omega, m % 1440, htime, by omega⟩)
  · rintro ⟨dayNumber, hday, h⟩
    have hnamed : ∀ hour ∈ fields.hours, ∀ minute ∈ fields.minutes,
        0 ≤ 60 * hour + minute ∧ 60 * hour + minute < 1440 := by
      intro hour hhour minute hminute
      have h := hhours.2 hour hhour
      have m := hminutes.2 minute hminute
      omega
    rcases h with h | ⟨rfl, time, ⟨hour, hhour, minute, hminute, rfl⟩, htime⟩ |
      ⟨rfl, time, ⟨hour, hhour, minute, hminute, rfl⟩, htime⟩
    · obtain ⟨hour, hhour⟩ := List.exists_mem_of_ne_nil _ hhours.1
      obtain ⟨minute, hminute⟩ := List.exists_mem_of_ne_nil _ hminutes.1
      have hbounds := hnamed hour hhour minute hminute
      exact ⟨_, by omega, by omega, matches_of_named hminutes hhours hday hhour hminute⟩
    · have hbounds := hnamed hour hhour minute hminute
      exact ⟨_, by omega, by omega, matches_of_named hminutes hhours hday hhour hminute⟩
    · have hbounds := hnamed hour hhour minute hminute
      exact ⟨_, by omega, by omega, matches_of_named hminutes hhours hday hhour hminute⟩

variable {zoneInfo : String → Option ZoneInfo} {expression timezone : String} {after : Timestamp}
  {zone : ZoneInfo}

lemma nextCronRun_isOk_iff (hparse : parseCronExpression expression = .ok fields)
    (hzone : zoneInfo timezone = some zone) :
    (nextCronRun zoneInfo expression after timezone).isOk = true ↔
      NamesDayWithinYear fields (firstMinute zone after) := by
  obtain ⟨hminutes, hhours⟩ := inRange_of_parse hparse
  rw [nextCronRun_eq hparse hzone, ← exists_matches_iff hminutes hhours]
  cases hfind : findMinute zone fields after with
  | some k =>
    obtain ⟨hmatches, hk, -⟩ := findMinute_eq_some.mp hfind
    unfold searchedMinutes at hk
    exact iff_of_true rfl ⟨_, by omega, by omega, hmatches⟩
  | none =>
    refine iff_of_false (fun h => nomatch h) ?_
    rintro ⟨m, hfirst, hlast, hmatches⟩
    have hnone := findMinute_eq_none.mp hfind (m - firstMinute zone after).toNat (by
      unfold searchedMinutes
      omega)
    have hm : firstMinute zone after + ((m - firstMinute zone after).toNat : ℤ) = m := by omega
    rw [hm, hmatches] at hnone
    cases hnone

end Cron

namespace PluginRuntimeManager

open Cron

variable (out : Outside)

/-! ## Setting a schedule -/

/-- `timezone or "UTC"`. -/
def zoneName (timezone : Option String) : String := (timezone.filter (· ≠ "")).getD "UTC"

def Manager.updateShortLivedSchedule (s : Manager) (key : ShortLivedKey) (schedule : Schedule)
    (timezone : Option String) : Except PyError Manager :=
  match if schedule.mode = "interval" then schedule.intervalSeconds.filter (· ≠ 0) else none with
  | some interval => .ok (s.setNextRun key (some (out.now + seconds (max interval 1).toNat)))
  | none =>
    match if schedule.mode = "cron" then schedule.cronExpression.filter (· ≠ "") else none with
    | some expression =>
      (nextCronRun out.zoneInfo expression out.now (zoneName timezone)).map fun run =>
        s.setNextRun key (some run)
    | none => .ok (s.setNextRun key none)

/-- The user's config row of the event, with the schedule. -/
def Manager.saveSchedule (s : Manager) (pluginId userId : RowId) (eventName : String)
    (schedule : Schedule) : Manager :=
  let own := fun c : PluginUserEventConfig =>
    c.pluginId = pluginId ∧ c.userId = userId ∧ c.eventName = eventName
  { s with userEventConfigs :=
      if s.userEventConfigs.any fun c => own c then
        s.userEventConfigs.map fun c => if own c then { c with schedule := schedule } else c
      else s.userEventConfigs ++
        [{ pluginId := pluginId, userId := userId, eventName := eventName, schedule := schedule }] }

/-- How a request to set a schedule ends. -/
inductive Answer where
  | rejected (error : HttpError)
  | done (s : Manager)
  /-- An exception, after the commit. -/
  | raised (s : Manager) (error : PyError)

/-- `update_user_event_schedule`, for an event of a plugin that the user sees. -/
def Manager.updateUserEventSchedule (s : Manager) (pluginId userId : RowId) (eventName : String)
    (scheduleMode : String) (scheduleIntervalSeconds : Option ℤ) (scheduleCron : Option String) :
    Answer :=
  if scheduleMode ∉ ["manual", "interval", "cron"] then .rejected ⟨400, "Invalid schedule_mode"⟩
  else if scheduleMode = "interval" ∧ scheduleIntervalSeconds.filter (· ≠ 0) = none then
    .rejected ⟨400, "schedule_interval_seconds is required"⟩
  else
    let save (normalizedCron : Option String) : Answer :=
      let schedule : Schedule :=
        { mode := scheduleMode
          intervalSeconds := if scheduleMode = "interval" then scheduleIntervalSeconds else none
          cronExpression := normalizedCron }
      let s := s.saveSchedule pluginId userId eventName schedule
      let key : ShortLivedKey :=
        { pluginId := pluginId, eventName := eventName, scopeType := "user", scopeId := userId }
      match s.updateShortLivedSchedule out key schedule (s.timezone userId) with
      | .ok s => .done s
      | .error error => .raised s error
    if scheduleMode = "cron" then
      match validateCronExpression (scheduleCron.getD "") with
      | .ok normalized => save (some normalized)
      | .error (.valueError text) => .rejected ⟨400, text⟩
      | .error error => .raised s error
    else save none

/-! ## Expressions that can be used -/

def cronSchedule (expression : String) : Schedule where
  mode := "cron"
  cronExpression := some expression

/-- A cron expression has a next run, and neither setting it nor the manager's loop raises; the loop
may where an event cannot be started. -/
structure Usable (expression : String) (timezone : Option String) : Prop where
  nextRun : (nextCronRun out.zoneInfo expression out.now (zoneName timezone)).isOk = true
  update : ∀ (s : Manager) (key : ShortLivedKey),
    (s.updateShortLivedSchedule out key (cronSchedule expression) timezone).isOk = true
  setting : ∀ (s : Manager) (pluginId userId : RowId) (eventName : String),
    s.timezone userId = timezone →
      ∃ s', s.updateUserEventSchedule out pluginId userId eventName "cron" none (some expression) =
        .done s'
  sync : (∀ key, out.submit key = true) → ∀ (s : Manager) (key : ShortLivedKey),
    (s.syncSchedule out key (cronSchedule expression) timezone).2 = none

variable {out} {expression : String} {timezone : Option String} {zone : ZoneInfo}
  {fields : CronFields}

lemma ne_empty_of_parse (hparse : parseCronExpression expression = .ok fields) :
    expression ≠ "" := by
  rintro rfl
  have herror : (parseCronExpression "").isOk = false := by decide +kernel
  rw [hparse] at herror
  cases herror

lemma filter_ne_empty (hne : expression ≠ "") :
    (some expression).filter (· ≠ "") = some expression := by
  rw [Option.filter_some, if_pos (decide_eq_true hne)]

lemma nextRunForSchedule_cronSchedule (hne : expression ≠ "") :
    nextRunForSchedule out.zoneInfo (cronSchedule expression) out.now timezone =
      nextCronRun out.zoneInfo expression out.now (zoneName timezone) := by
  rw [nextRunForSchedule, cronSchedule, if_neg (by simp)]
  dsimp only
  rw [filter_ne_empty hne]
  rfl

lemma updateShortLivedSchedule_cron (s : Manager) (key : ShortLivedKey) (schedule : Schedule)
    (hmode : schedule.mode = "cron") (hcron : schedule.cronExpression = some expression)
    (hne : expression ≠ "") :
    s.updateShortLivedSchedule out key schedule timezone =
      (nextCronRun out.zoneInfo expression out.now (zoneName timezone)).map fun run =>
        s.setNextRun key (some run) := by
  rw [Manager.updateShortLivedSchedule, hmode, hcron, filter_ne_empty hne, if_neg (by simp)]
  rfl

lemma updateUserEventSchedule_cron {normalized : String} {s : Manager} {pluginId userId : RowId}
    {eventName : String} {run : Timestamp}
    (hvalidate : validateCronExpression expression = .ok normalized) (hne : normalized ≠ "")
    (hrun : nextCronRun out.zoneInfo normalized out.now (zoneName (s.timezone userId)) = .ok run) :
    ∃ s', s.updateUserEventSchedule out pluginId userId eventName "cron" none (some expression) =
      .done s' := by
  rw [Manager.updateUserEventSchedule, if_neg (by simp), if_neg (by simp), if_pos rfl,
    Option.getD_some, hvalidate]
  dsimp only
  rw [updateShortLivedSchedule_cron _ _ _ rfl rfl hne]
  have hzone : ∀ schedule, (s.saveSchedule pluginId userId eventName schedule).timezone userId =
      s.timezone userId := fun _ => rfl
  rw [hzone, hrun]
  exact ⟨_, rfl⟩

lemma syncSchedule_of_nextRun {s : Manager} {key : ShortLivedKey} {schedule : Schedule}
    {run : Timestamp} (hsubmit : out.submit key = true)
    (hnext : nextRunForSchedule out.zoneInfo schedule out.now timezone = .ok run) :
    (s.syncSchedule out key schedule timezone).2 = none := by
  rw [← Option.not_isSome_iff_eq_none, syncSchedule_raises_iff]
  rintro ⟨-, h⟩
  rw [hnext, hsubmit] at h
  simp [Except.isOk, Except.toBool] at h

/-- An accepted expression can be used exactly when it names a day of the year that is searched. -/
theorem usable_iff_namesDay (hparse : parseCronExpression expression = .ok fields)
    (hzone : out.zoneInfo (zoneName timezone) = some zone) :
    Usable out expression timezone ↔ NamesDayWithinYear fields (firstMinute zone out.now) := by
  have hne := ne_empty_of_parse hparse
  constructor
  · exact fun h => (nextCronRun_isOk_iff hparse hzone).mp h.nextRun
  · intro hday
    have hnext : ∀ e, parseCronExpression e = .ok fields →
        ∃ run, nextCronRun out.zoneInfo e out.now (zoneName timezone) = .ok run := by
      intro e he
      have hok := (nextCronRun_isOk_iff he hzone).mpr hday
      cases hrun : nextCronRun out.zoneInfo e out.now (zoneName timezone) with
      | error error =>
        rw [hrun] at hok
        cases hok
      | ok run => exact ⟨run, rfl⟩
    obtain ⟨run, hrun⟩ := hnext expression hparse
    constructor
    · rw [hrun]
      rfl
    · intro s key
      rw [updateShortLivedSchedule_cron s key _ rfl rfl hne, hrun]
      rfl
    · intro s pluginId userId eventName htimezone
      -- what is saved is another spelling of the same expression
      have hvalidate : validateCronExpression expression =
          .ok (joinWords (splitWords (strip expression))) := by
        rw [validateCronExpression, hparse]
        rfl
      have hsame := (parse_of_validate hvalidate).trans hparse
      obtain ⟨run', hrun'⟩ := hnext _ hsame
      rw [← htimezone] at hrun'
      exact updateUserEventSchedule_cron hvalidate (ne_empty_of_parse hsame) hrun'
    · intro hsubmit s key
      have hsync : nextRunForSchedule out.zoneInfo (cronSchedule expression) out.now timezone =
          .ok run := by
        rw [nextRunForSchedule_cronSchedule hne, hrun]
      exact syncSchedule_of_nextRun (hsubmit key) hsync

/-! ## The thirtieth of February -/

/-- Nothing goes wrong outside, and there is one time zone. -/
def utcOnly : Outside where
  __ := allWell
  zoneInfo name := if name = "UTC" then some { toWall := fun t => t, toUtc := Int.toNat } else none

/-- `0 0 30 2 *`. -/
def februaryThirtieth : CronFields where
  minutes := [0]
  hours := [0]
  days := [30]
  months := [2]
  weekdays := [0, 1, 2, 3, 4, 5, 6, 0]

/-- `0 0 29 2 *`. -/
def februaryTwentyNinth : CronFields where
  minutes := [0]
  hours := [0]
  days := [29]
  months := [2]
  weekdays := [0, 1, 2, 3, 4, 5, 6, 0]

theorem leapDay_usable_iff :
    Usable utcOnly "0 0 29 2 *" (some "UTC") ↔
      NamesDayWithinYear februaryTwentyNinth
        (firstMinute { toWall := fun t => t, toUtc := Int.toNat } utcOnly.now) :=
  usable_iff_namesDay (eq_ok_of_toOption (by decide +kernel)) rfl

/-- The thirtieth of February is accepted, and has no next run. -/
theorem februaryThirtieth_not_usable :
    validateCronExpression "0 0 30 2 *" = .ok "0 0 30 2 *" ∧
      ¬ Usable utcOnly "0 0 30 2 *" (some "UTC") := by
  have hparse : parseCronExpression "0 0 30 2 *" = .ok februaryThirtieth :=
    eq_ok_of_toOption (by decide +kernel)
  refine ⟨eq_ok_of_toOption (by decide +kernel), fun h => ?_⟩
  obtain ⟨dayNumber, hday, hyear⟩ := (nextCronRun_isOk_iff hparse rfl).mp h.nextRun
  have hnone : ∀ k < 367, ¬ DayNamed februaryThirtieth ((k : ℕ) : ℤ) := by decide +kernel
  have hfirst : firstMinute { toWall := fun t => t, toUtc := Int.toNat } utcOnly.now = 1 := by
    decide
  rw [hfirst] at hyear
  have hnat : ((dayNumber.toNat : ℕ) : ℤ) = dayNumber := by omega
  exact hnone dayNumber.toNat (by omega) (hnat ▸ hday)

end PluginRuntimeManager

end CocoonSit
