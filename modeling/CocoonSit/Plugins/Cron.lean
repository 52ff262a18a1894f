import CocoonSit.Plugins.Delivery

/-!
# When a schedule runs next

`next_cron_run` of the plugin manager, with the parser of cron fields, and
`_next_run_for_schedule`.  The search walks the wall clock of the user's time zone minute by
minute; what a time zone does to a time is given with its entry in the zone database.
-/

namespace CocoonSit

/-- The exceptions a turn of the plugin manager can raise. -/
inductive PyError where
  | attributeError
  | typeError
  | valueError (text : String)
  | integrityError
  | pendingRollbackError
  | zoneInfoNotFoundError
  | osError
deriving DecidableEq, Repr

/-! ## Texts -/

/-- The zeros of Unicode's decimal digits; the other nine follow. -/
def decimalZeros : List ℕ :=
  [0x30, 0x660, 0x6f0, 0x7c0, 0x966, 0x9e6, 0xa66, 0xae6, 0xb66, 0xbe6, 0xc66, 0xce6, 0xd66, 0xde6,
    0xe50, 0xed0, 0xf20, 0x1040, 0x1090, 0x17e0, 0x1810, 0x1946, 0x19d0, 0x1a80, 0x1a90, 0x1b50,
    0x1bb0, 0x1c40, 0x1c50, 0xa620, 0xa8d0, 0xa900, 0xa9d0, 0xa9f0, 0xaa50, 0xabf0, 0xff10, 0x104a0,
    0x10d30, 0x11066, 0x110f0, 0x11136, 0x111d0, 0x112f0, 0x11450, 0x114d0, 0x11650, 0x116c0,
    0x11730, 0x118e0, 0x11950, 0x11c50, 0x11d50, 0x11da0, 0x11f50, 0x16a60, 0x16ac0, 0x16b50,
    0x1d7ce, 0x1d7d8, 0x1d7e2, 0x1d7ec, 0x1d7f6, 0x1e140, 0x1e2f0, 0x1e4f0, 0x1e950, 0x1fbf0]

def digitValue (c : Char) : Option ℕ :=
  decimalZeros.findSome? fun zero =>
    if zero ≤ c.toNat ∧ c.toNat < zero + 10 then some (c.toNat - zero) else none

/-- Digits, with single underscores between them; `n` is read already. -/
def digitsFrom (n : ℕ) (afterDigit : Bool) : List Char → Option ℕ
  | [] => if afterDigit then some n else none
  | '_' :: cs => if afterDigit then digitsFrom n false cs else none
  | c :: cs => (digitValue c).bind fun d => digitsFrom (10 * n + d) true cs

/-- `sys.int_info.default_max_str_digits`. -/
def maxStrDigits : ℕ := 4300

/-- The digits of a text. -/
def countDigits (s : String) : ℕ := s.toList.countP fun c => (digitValue c).isSome

/-- `int(s)`. -/
def intOf (s : String) : Except PyError ℤ :=
  let value := match (strip s).toList with
    | '-' :: cs => (digitsFrom 0 false cs).map fun n => -(n : ℤ)
    | '+' :: cs => (digitsFrom 0 false cs).map fun n => (n : ℤ)
    | cs => (digitsFrom 0 false cs).map fun n => (n : ℤ)
  match value with
  | some n =>
    if maxStrDigits < countDigits s then
      .error (.valueError ("Exceeds the limit (4300 digits) for integer string conversion: " ++
        "value has " ++ toString (countDigits s) ++ " digits; " ++
        "use sys.set_int_max_str_digits() to increase the limit"))
    else .ok n
  | none => .error (.valueError ("invalid literal for int() with base 10: " ++ s))

/-- `s.split(c, 1)`, when `c` is there. -/
def splitOnce (c : Char) (s : String) : Option (String × String) :=
  match s.toList.span (· ≠ c) with
  | (_, []) => none
  | (before, _ :: rest) => some (String.ofList before, String.ofList rest)

/-- `s.split(c)`. -/
def splitAll (c : Char) (s : String) : List String := (s.toList.splitOn c).map String.ofList

/-- `s.split()`. -/
def splitWords (s : String) : List String :=
  ((s.toList.splitOnP isSpace).filter (· ≠ [])).map String.ofList

/-! ## Cron fields -/

/-- One part of a field, without its step: `*`, a range or a number. -/
def parseCronRange (part : String) (minimum maximum : ℤ) : Except PyError (ℤ × ℤ) :=
  if part = "*" then .ok (minimum, maximum)
  else
    match splitOnce '-' part with
    | some (rawStart, rawEnd) => do
        let start ← intOf rawStart
        let stop ← intOf rawEnd
        .ok (start, stop)
    | none => do
        let start ← intOf part
        .ok (start, start)

/-- One part of a field: its values. -/
def parseCronPart (rawPart : String) (minimum maximum : ℤ) : Except PyError (List ℤ) := do
  let part := strip rawPart
  if part = "" then .error (.valueError "empty cron field")
  let (part, step) ← match splitOnce '/' part with
    | some (part, rawStep) => do
        let step ← intOf rawStep
        if step < 1 then .error (.valueError "cron step must be positive")
        .ok (part, step)
    | none => .ok (part, 1)
  let (start, stop) ← parseCronRange part minimum maximum
  if start < minimum ∨ maximum < start ∨ stop < minimum ∨ maximum < stop then
    .error (.valueError "cron field out of range")
  if stop < start then .error (.valueError "cron ranges must be ascending")
  .ok (((List.range (stop - start + 1).toNat).filter fun k => (k : ℤ) % step = 0).map fun k =>
    start + (k : ℤ))

def parseCronField (value : String) (minimum maximum : ℤ) (sundayAlias : Bool) :
    Except PyError (List ℤ) := do
  let parts ← (splitAll ',' value).mapM fun part => parseCronPart part minimum maximum
  .ok (parts.flatten.map fun item => if sundayAlias ∧ item = 7 then 0 else item)

/-- The values of the five fields. -/
structure CronFields where
  minutes : List ℤ
  hours : List ℤ
  days : List ℤ
  months : List ℤ
  weekdays : List ℤ
deriving DecidableEq

/-- `validate_cron_expression`, and the fields it has parsed. -/
def parseCronExpression (expression : String) : Except PyError CronFields :=
  match splitWords (strip expression) with
  | [minutes, hours, days, months, weekdays] => do
      let minutes ← parseCronField minutes 0 59 false
      let hours ← parseCronField hours 0 23 false
      let days ← parseCronField days 1 31 false
      let months ← parseCronField months 1 12 false
      let weekdays ← parseCronField weekdays 0 7 true
      .ok ⟨minutes, hours, days, months, weekdays⟩
  | _ => .error (.valueError "cron expression must have 5 fields")

/-! ## The calendar -/

/-- A day of the Gregorian calendar, from its number since 1970-01-01: month and day. -/
def monthAndDay (dayNumber : ℤ) : ℤ × ℤ :=
  -- years begin in March, and so end with the leap day
  let dayOfEra := (dayNumber + 719468) % 146097
  let yearOfEra := (dayOfEra - dayOfEra / 1460 + dayOfEra / 36524 - dayOfEra / 146096) / 365
  let dayOfYear := dayOfEra - (365 * yearOfEra + yearOfEra / 4 - yearOfEra / 100)
  let month := (5 * dayOfYear + 2) / 153
  (if month < 10 then month + 3 else month - 9, dayOfYear - (153 * month + 2) / 5 + 1)

/-- The wall clock shows a minute the expression names; minutes count from 1970-01-01. -/
def CronFields.matches (fields : CronFields) (minute : ℤ) : Bool :=
  let dayNumber := minute / 1440
  let (month, day) := monthAndDay dayNumber
  decide (minute % 60 ∈ fields.minutes) && decide (minute / 60 % 24 ∈ fields.hours) &&
    decide (day ∈ fields.days) && decide (month ∈ fields.months) &&
    -- 1970-01-01 was a Thursday
    decide ((dayNumber + 4) % 7 ∈ fields.weekdays)

/-! ## The next run -/

/-- A time zone: its wall clock, in microseconds, and back. -/
structure ZoneInfo where
  toWall : Timestamp → ℤ
  toUtc : ℤ → Timestamp

def minuteMicros : ℤ := 60000000

/-- `next_cron_run`; `zoneInfo` is the zone database. -/
def nextCronRun (zoneInfo : String → Option ZoneInfo) (expression : String) (after : Timestamp)
    (timezone : String) : Except PyError Timestamp := do
  let fields ← parseCronExpression expression
  match zoneInfo timezone with
  | none => .error .zoneInfoNotFoundError
  | some zone =>
    let first := zone.toWall after / minuteMicros + 1
    -- the deadline is 366 days after the first candidate, and is one itself
    match (List.range (366 * 1440 + 1)).find? fun k => fields.matches (first + (k : ℤ)) with
    | some k => .ok (zone.toUtc ((first + (k : ℤ)) * minuteMicros))
    | none => .error (.valueError "cron expression has no run time in the next year")

/-- When and how often an event runs for a user. -/
structure Schedule where
  mode : String := "manual"
  intervalSeconds : Option ℤ := none
  cronExpression : Option String := none

def nextRunForSchedule (zoneInfo : String → Option ZoneInfo) (schedule : Schedule)
    (after : Timestamp) (timezone : Option String) : Except PyError Timestamp :=
  if schedule.mode = "interval" then
    let interval := (schedule.intervalSeconds.filter (· ≠ 0)).getD 1
    .ok (after + seconds (max interval 1).toNat)
  else
    match schedule.cronExpression.filter (· ≠ "") with
    | some expression =>
      if schedule.mode = "cron" then
        nextCronRun zoneInfo expression after ((timezone.filter (· ≠ "")).getD "UTC")
      else .ok (after + seconds (3650 * 86400))
    | none => .ok (after + seconds (3650 * 86400))

end CocoonSit
