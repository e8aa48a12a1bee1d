-- The lines that the watcher writes for an event: one in JSON, or one or two in
-- text, with colours where they are wanted.
import Patchbay.Event
import Patchbay.Resource.Display
import Patchbay.Resource.Json

namespace Patchbay.Watch

/-! ## Colours -/

inductive Style where
  | green
  | boldGreen
  | red
  | boldRed
  | yellow
  | cyan
  | dimmed

namespace Style

def codes : Style → String
  | green => "32"
  | boldGreen => "1;32"
  | red => "31"
  | boldRed => "1;31"
  | yellow => "33"
  | cyan => "36"
  | dimmed => "2"

/-- What switches a style on. -/
def on (s : Style) : List Char := ['\x1b', '['] ++ s.codes.toList ++ ['m']

/-- What switches every style off. -/
def off : List Char := ['\x1b', '[', '0', 'm']

/-- A text in which the style goes on after each place that switches it off. -/
def kept (s : Style) : List Char → List Char
  | '\x1b' :: '[' :: '0' :: 'm' :: r => off ++ s.on ++ s.kept r
  | c :: r => c :: s.kept r
  | [] => []

end Style

/-- How events are written. -/
structure Format where
  json : Bool
  color : Bool
deriving DecidableEq

namespace Format

/-- A text in a style, if colours are wanted. -/
def paint (f : Format) (s : Style) (text : String) : String :=
  if f.color then String.ofList (s.on ++ s.kept text.toList ++ Style.off) else text

/-- A text with blanks after it, up to twelve characters. -/
def padded (text : String) : String :=
  String.ofList (text.toList ++ List.replicate (12 - text.length) ' ')

/-! ## Lines -/

/-- The kind of a record in its column. -/
def kindColumn (f : Format) (r : Resource) : String := f.paint .cyan (padded r.kind.text)

/-- An event in text, given the records that the handler sees. -/
def textLines (f : Format) (store : Store) : Event → List String
  | .ready =>
    let s := store.stats
    let label := f.paint .boldGreen "READY"
    [s!"{label} {s.nodes} nodes, {s.sources} sources, {s.destinations} destinations, " ++
      s!"{s.gpis} gpis, {s.gpos} gpos"]
  | .added r =>
    let label := f.paint .green "ADD"
    [s!"{label} {f.kindColumn r} {r.text}"]
  | .deleted r =>
    let label := f.paint .red "DEL"
    [s!"{label} {f.kindColumn r} {r.text}"]
  | .changed old new =>
    let label := f.paint .yellow "CHG"
    let before := f.paint .dimmed old.text
    let column := padded ""
    [s!"{label} {f.kindColumn new} {before}", s!"    {column} {new.text}"]
  | .alarm a =>
    let label := f.paint (if a.active then .boldRed else .dimmed) "ALM"
    [s!"{label} {a.text}"]

end Format

/-- Counts in JSON. -/
def statsJson (s : Stats) : Json := .object [
  ("destinations", .number s.destinations),
  ("gpis", .number s.gpis),
  ("gpos", .number s.gpos),
  ("nodes", .number s.nodes),
  ("sources", .number s.sources)]

/-- An event in JSON, given the records that the handler sees. -/
def eventJson (store : Store) : Event → Json
  | .ready => .object [("event", .string "ready"), ("stats", statsJson store.stats)]
  | .added r => .object [("event", .string "add"), ("resource", r.toJson)]
  | .deleted r => .object [("event", .string "delete"), ("resource", r.toJson)]
  | .changed old new =>
    .object [("event", .string "change"), ("new", new.toJson), ("old", old.toJson)]
  | .alarm a => .object [("alarm", a.toJson), ("event", .string "alarm")]

/-- The lines of an event. -/
def Format.lines (f : Format) (store : Store) (e : Event) : List String :=
  if f.json then [(eventJson store e).text] else f.textLines store e

/-- The lines of what a client brings about: those of the events that it delivers. -/
def Format.output (f : Format) (effects : List Effect) : List String :=
  (effects.filterMap Effect.delivery?).flatMap fun d => f.lines d.store d.event

end Patchbay.Watch
