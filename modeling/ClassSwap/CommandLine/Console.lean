import ClassSwap.LogFilter
import ClassSwap.Session

namespace ClassSwap.CommandLine

structure Logger where
  filter : LogFilter
  json : Bool
  stderr : Bool
  file : Option Place
  /-- The time that is written into the log. -/
  time : String

structure Console (σ : Type) where
  site : Site σ
  logger : Logger
  stdout : String := ""
  stderr : String := ""

namespace Console

variable {σ : Type}

def print (c : Console σ) (line : String) : Console σ :=
  { c with stdout := c.stdout ++ line ++ "\n" }

def complain (c : Console σ) (line : String) : Console σ :=
  { c with stderr := c.stderr ++ line ++ "\n" }

/-- Writes an event to the log, if it is let through. -/
def log (c : Console σ) (e : LogEvent) : Console σ :=
  if c.logger.filter.lets e then
    let line := if c.logger.json then e.jsonLine c.logger.time else e.line c.logger.time
    let site : Site σ :=
      match c.logger.file with
      | some place => { c.site with files := c.site.files.append place (Utf8.ofString line) }
      | none => c.site
    { c with site, stderr := if c.logger.stderr then c.stderr ++ line else c.stderr }
  else c

def area : String := "hotline.cli"

/-- The path that was saved last, as it is shown in an event. -/
def lastPathText : Option String → String
  | some path => "Some(" ++ Quoted.text path ++ ")"
  | none => "None"

/-- The event for something that a session tells; lines of the compiler have none. -/
def eventOf? : SessionEvent → Option LogEvent
  | .diagnostic _ => none
  | .compileFinished success =>
    some ⟨.debug, area, "compile finished", [("success", .flag success)]⟩
  | .saveFinished saved total lastPath =>
    some ⟨.debug, area, "save finished", [("saved", .number saved), ("total", .number total),
      ("last_path", .text (lastPathText lastPath))]⟩
  | .uploadFinished (.ok ack) =>
    some ⟨.debug, area, "upload acknowledged", [("name", .text ack.name)]⟩
  | .uploadFinished (.error e) => some ⟨.debug, area, "upload failed", [("error", .text e.message)]⟩

def notice (c : Console σ) : Notice → Console σ
  | .event e => c.log e
  | .told (.diagnostic line) => c.complain line
  | .told e =>
    match eventOf? e with
    | some e => c.log e
    | none => c

/-- Starts to log as configured. A file that cannot be opened is left out with a warning. -/
def start (settings : Config.Logging) (directives : Option String) (time : String) (here : Place)
    (site : Site σ) : Console σ :=
  let logger : Logger :=
    { filter := LogFilter.ofSettings settings.level directives, json := settings.json
      stderr := settings.stderr, file := none, time }
  match settings.file with
  | none => { site, logger }
  | some path =>
    match site.files.openAtEnd here path with
    | .ok (place, files) =>
      { site := { site with files }, logger := { logger with file := some place } }
    | .error _ =>
      let c : Console σ := { site, logger }
      c.log ⟨.warn, "hotline.config", "failed to open log file; file logging disabled",
        [("path", .text path)]⟩

end Console

end ClassSwap.CommandLine
