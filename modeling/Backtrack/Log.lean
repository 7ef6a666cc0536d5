/-!
# Log events

What a program tells about its own doings, each event at a level. Only events down to a chosen level
are shown.
-/

namespace Backtrack.Log

/-- How much an event matters. -/
inductive Level where
  | error
  | warn
  | info
  | debug
  | trace
  deriving DecidableEq, Repr

/-- The rank of a level: the most important comes first. -/
def Level.rank : Level → Nat
  | error => 1
  | warn => 2
  | info => 3
  | debug => 4
  | trace => 5

/-- The level's name, filled up to five characters. -/
def Level.tag : Level → String
  | error => "ERROR"
  | warn => "WARN "
  | info => "INFO "
  | debug => "DEBUG"
  | trace => "TRACE"

/-- The least important level that is shown, if any is. -/
inductive Filter where
  | off
  | upTo (level : Level)
  deriving DecidableEq, Repr

namespace Filter

/-- All filters, with their names. -/
def all : List (String × Filter) :=
  [("Off", off), ("Error", upTo .error), ("Warn", upTo .warn), ("Info", upTo .info),
    ("Debug", upTo .debug), ("Trace", upTo .trace)]

/-- The filter of a name, in any case. -/
def ofName? (name : String) : Option Filter :=
  (all.find? fun entry => entry.1.map Char.toLower = name.map Char.toLower).map (·.2)

/-- The name of a filter. -/
def name (filter : Filter) : String :=
  ((all.find? fun entry => entry.2 = filter).map (·.1)).getD ""

/-- Is an event of this level shown? -/
def shows : Filter → Level → Bool
  | off, _ => false
  | upTo least, level => level.rank ≤ least.rank

end Filter

/-- An event: its level, where it comes from, a message, and named details. -/
structure Event where
  level : Level
  source : String
  message : String
  details : List (String × String) := []

/-- The event on a line of its own. Further lines of the message are indented. -/
def Event.render (event : Event) : String :=
  let message := "\n    ".intercalate (event.message.splitOn "\n")
  let details := String.join (event.details.map fun detail => s!" {detail.1}={detail.2}")
  "[" ++ event.level.tag ++ " " ++ event.source ++ "] " ++ message ++ details ++ "\n"

/-- The events that a filter shows, each on a line of its own. -/
def render (filter : Filter) (events : List Event) : String :=
  String.join ((events.filter fun event => filter.shows event.level).map Event.render)

end Backtrack.Log
