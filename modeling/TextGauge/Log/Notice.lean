import TextGauge.Log.Event

/-!
# What a run writes beside its result

On the error stream a run writes **notices**: the events that its log lets through, and at an
early end two lines for the person at the terminal. A log line has the time, the level on five
places, and the message, in which the control characters that steer a terminal are escaped; line
ends stay as they are.
-/

namespace TextGauge

/-- Something that is written on the error stream. -/
inductive Notice
  /-- An event, as a log line. -/
  | log (event : Event)
  /-- The fault that ended a run. -/
  | fault (f : Fault)
  /-- What to do about the fault that ended a run. -/
  | advice (f : Fault)
  deriving DecidableEq, Repr

/-- One character of a message in a log line. -/
def escapeControl (c : Char) : List Char :=
  if c = '\x1b' then ['\\', 'x', '1', 'b']
  else if c = '\x07' then ['\\', 'x', '0', '7']
  else if c = '\x08' then ['\\', 'x', '0', '8']
  else if c = '\x0c' then ['\\', 'x', '0', 'c']
  else if c = '\x7f' then ['\\', 'x', '7', 'f']
  else if 0x80 ≤ c.toNat ∧ c.toNat ≤ 0x9F then Text.Echo.numbered c
  else [c]

/-- The label of a level, moved to the right of five places. -/
def Level.padded (level : Level) : String :=
  String.ofList (List.replicate (5 - level.label.length) ' ') ++ level.label

/-- A notice as it is written, at a time. -/
def Notice.text (time : String) : Notice → String
  | log event =>
    time ++ " " ++ event.level.padded ++ " "
      ++ String.ofList (event.message.toList.flatMap escapeControl)
  | fault f => "❌ " ++ f.notice
  | advice f => "💡 " ++ f.advice

end TextGauge
