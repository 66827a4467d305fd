import TaskEngine.Log.Event
import TaskEngine.Log.Settings

/-! A log line shows the level, then as the printer is set the thread, the call that the
event belongs to and the target, then the message and its fields. The call is shown only
when the filter lets its own level and target through. -/

namespace TaskEngine
namespace LogPrinter

def spanText (p : LogPrinter) : Option LogSpan → String
  | some span =>
    if p.filter.allows LogEvent.lifecycleTarget .info then " " ++ span.name ++ ":" else ""
  | none => ""

/-- The line of an entry, if the filter lets it through. -/
def line? (p : LogPrinter) (entry : LogEntry) : Option String :=
  let event := entry.event
  if p.filter.allows event.target event.level then
    some <|
      event.level.name ++
      (if p.withThreadNames then " " ++ entry.thread else "") ++
      p.spanText entry.span ++
      (if p.withTarget then " " ++ event.target ++ ":" else "") ++
      " " ++ event.message ++
      String.join (event.fields.map fun (name, value) => " " ++ name ++ "=" ++ value.toText)
  else none

end LogPrinter

def LogSink.lines (sink : LogSink) (log : List LogEntry) : List String :=
  match sink.printer with
  | some p => log.filterMap p.line?
  | none => []

end TaskEngine
