import GoldFlow.Risk.Circuit

/-! # Trading sessions

UTC time windows in which new trades may be opened.
-/

namespace GoldFlow

/-- `text.lower()`, on ASCII. -/
def lower (text : String) : String := String.ofList (text.toList.map Char.toLower)

/-- `value.time()`, as the duration since midnight. -/
def timeOfDay (now : Instant) : Duration := now % seconds 86400

/-- A named window that includes its start and excludes its end. -/
structure TradingSession where
  name : String
  start : Duration
  stop : Duration
  weekdays : List Int := [0, 1, 2, 3, 4]
  named : isBlank name = false := by decide
  weekdays_valid : weekdays ≠ [] ∧ ∀ day ∈ weekdays, 0 ≤ day ∧ day ≤ 6 := by decide

def TradingSession.contains (session : TradingSession) (now : Instant) : Bool :=
  let current := timeOfDay now
  let today := weekday (dayOf now)
  if session.start < session.stop then
    today ∈ session.weekdays ∧ session.start ≤ current ∧ current < session.stop
  else if session.start ≤ current then today ∈ session.weekdays
  else current < session.stop ∧ (today - 1) % 7 ∈ session.weekdays

/-- A configured name is one of the sessions', in any case. -/
def TradingSession.isKnown (sessions : List TradingSession) (name : String) : Bool :=
  sessions.any fun session => lower session.name == lower name

structure SessionCalendar where
  sessions : List TradingSession
  allowedNames : List String
  known : ∀ name ∈ allowedNames, TradingSession.isKnown sessions name = true

def SessionCalendar.isAllowed (calendar : SessionCalendar) (now : Instant) : Bool :=
  calendar.sessions.any fun session =>
    lower session.name ∈ calendar.allowedNames.map lower && session.contains now

def defaultSessions : List TradingSession :=
  [ { name := "asia", start := 0, stop := seconds (8 * 3600) },
    { name := "london", start := seconds (7 * 3600), stop := seconds (16 * 3600) },
    { name := "new_york", start := seconds (12 * 3600), stop := seconds (21 * 3600) },
    { name := "london_new_york_overlap", start := seconds (12 * 3600), stop := seconds (16 * 3600) } ]

/-- `SessionCalendar(...)`: unknown names are refused. -/
def SessionCalendar.make (sessions : List TradingSession) (allowedNames : List String) :
    Except PyError SessionCalendar :=
  if known : ∀ name ∈ allowedNames, TradingSession.isKnown sessions name = true then
    .ok { sessions, allowedNames, known }
  else .error (.value "unknown configured sessions")

def defaultSessionCalendar (allowedNames : List String) : Except PyError SessionCalendar :=
  SessionCalendar.make defaultSessions allowedNames

/-! ## The windows of a session -/

/-- The range of a `time`. -/
abbrev IsTimeOfDay (time : Duration) : Prop := 0 ≤ time ∧ time < seconds 86400

/-- The instants of the window that starts on a day. -/
def TradingSession.window (session : TradingSession) (day : Int) : Set Instant :=
  {now | day * seconds 86400 + session.start ≤ now ∧
    now < (if session.start < session.stop then day else day + 1) * seconds 86400 + session.stop}

theorem isTimeOfDay_timeOfDay (now : Instant) : IsTimeOfDay (timeOfDay now) :=
  ⟨Int.emod_nonneg _ (by decide), Int.emod_lt_of_pos _ (by decide)⟩

theorem weekday_pred (day : Int) : weekday (day - 1) = (weekday day - 1) % 7 := by
  simp only [weekday]
  omega

theorem anchored_iff {start stop time today day : Int} (starts : 0 ≤ start ∧ start < 86400000000)
    (stops : 0 ≤ stop ∧ stop < 86400000000) (current : 0 ≤ time ∧ time < 86400000000) :
    (day * 86400000000 + start ≤ today * 86400000000 + time ∧
        today * 86400000000 + time < (if start < stop then day else day + 1) * 86400000000 + stop) ↔
      day = today ∧ start ≤ time ∧ (start < stop → time < stop) ∨ day = today - 1 ∧ stop ≤ start ∧ time < stop := by
  split <;> omega

/-- **A session is open in the windows that start on its weekdays.** -/
theorem TradingSession.contains_iff (session : TradingSession) (starts : IsTimeOfDay session.start)
    (stops : IsTimeOfDay session.stop) (now : Instant) :
    session.contains now = true ↔ ∃ day, weekday day ∈ session.weekdays ∧ now ∈ session.window day := by
  have anchored : ∀ day, now ∈ session.window day ↔ day = dayOf now ∧ session.start ≤ timeOfDay now ∧
      (session.start < session.stop → timeOfDay now < session.stop) ∨
      day = dayOf now - 1 ∧ session.stop ≤ session.start ∧ timeOfDay now < session.stop := by
    intro day
    have split : dayOf now * seconds 86400 + timeOfDay now = now := Int.ediv_mul_add_emod now (seconds 86400)
    rw [← anchored_iff starts stops (isTimeOfDay_timeOfDay now)]
    exact Eq.to_iff (congrArg (· ∈ session.window day) split.symm)
  simp only [anchored, contains, and_or_left, exists_or, ← weekday_pred]
  by_cases sameDay : session.start < session.stop
  · have nextDay : ¬ session.stop ≤ session.start := not_le.mpr sameDay
    simp [sameDay]
  · have nextDay : session.stop ≤ session.start := not_lt.mp sameDay
    by_cases started : session.start ≤ timeOfDay now
    · have ended : ¬ timeOfDay now < session.stop := not_lt.mpr (nextDay.trans started)
      simp [sameDay, started, ended]
    · simp [started, nextDay, and_comm]

/-- The night of a Friday lasts into the Saturday. -/
def nightSession : TradingSession where
  name := "night"
  start := seconds (22 * 3600)
  stop := seconds (6 * 3600)

theorem nightSession_contains_saturday : nightSession.contains (seconds (2 * 86400 + 3600)) = true ∧
    ∃ day, weekday day ∈ nightSession.weekdays ∧ seconds (2 * 86400 + 3600) ∈ nightSession.window day :=
  have contained : nightSession.contains (seconds (2 * 86400 + 3600)) = true := by decide
  ⟨contained, (nightSession.contains_iff (by decide) (by decide) _).mp contained⟩

end GoldFlow
