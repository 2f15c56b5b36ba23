import StorageConsole.Script.Basic

/-! Running scripts in a world that answers every request from a list of replies. -/

namespace StorageConsole

/-- What scripts act upon, and what they have done so far. -/
structure World where
  replies : List Http.Reply
  pages : Pages
  sink : Download.Sink
  -- The requests sent, oldest first.
  sent : List Http.Request := []
  events : List Event := []
  sightings : List Sighting := []
  -- What the clock will show, one reading after the other.
  clock : List Nat := []

namespace World

def time (w : World) : Nat := w.clock.headD 0

def tick (w : World) : World := { w with clock := w.clock.tail }

def noReply : Http.Reply := .error (.connection "no reply")

def answer (w : World) (r : Http.Request) : Http.Reply × World :=
  (w.replies.headD noReply, { w with replies := w.replies.tail, sent := w.sent ++ [r] })

def log (w : World) (e : Event) : World := { w with events := w.events ++ [e] }

def logSaved (w : World) (name : String) (blob : Download.Blob) : World :=
  match w.sink with
  | .directory dir _ => w.log (.saved (Download.pathFor dir name) blob.bytes.length)
  | _ => w

def save (w : World) (name : String) (blob : Download.Blob) : Except Files.Fault Unit × World :=
  match w.sink.save name blob with
  | (sink, .ok ()) => (.ok (), { w with sink := sink }.logSaved name blob)
  | (sink, .error e) => (.error e, { w with sink := sink })

end World

namespace Script

variable {α : Type}

def run : Script α → World → α × World
  | done a, w => (a, w)
  | send r next, w => (next (w.answer r).1).run (w.answer r).2
  | readPage next, w => (next w.pages.current).run w
  | readClock next, w => (next w.time).run w.tick
  | visit path next, w => next.run { w with pages := w.pages.visit path }
  | navigate path next, w => next.run { w with pages := w.pages.navigate path }
  | log event next, w => next.run (w.log event)
  | note sighting next, w => next.run { w with sightings := w.sightings ++ [sighting] }
  | save name blob next, w => (next (w.save name blob).1).run (w.save name blob).2

def step : Script α → World → Script α × World
  | done a, w => (done a, w)
  | send r next, w => (next (w.answer r).1, (w.answer r).2)
  | readPage next, w => (next w.pages.current, w)
  | readClock next, w => (next w.time, w.tick)
  | visit path next, w => (next, { w with pages := w.pages.visit path })
  | navigate path next, w => (next, { w with pages := w.pages.navigate path })
  | log event next, w => (next, w.log event)
  | note sighting next, w => (next, { w with sightings := w.sightings ++ [sighting] })
  | save name blob next, w => (next (w.save name blob).1, (w.save name blob).2)

def advance : Script α → World → Script α × World
  | done a, w => (done a, w)
  | send r next, w => (next (w.answer r).1, (w.answer r).2)
  | readPage next, w => (next w.pages.current).advance w
  | readClock next, w => (next w.time).advance w.tick
  | visit path next, w => next.advance { w with pages := w.pages.visit path }
  | navigate path next, w => next.advance { w with pages := w.pages.navigate path }
  | log event next, w => next.advance (w.log event)
  | note sighting next, w => next.advance { w with sightings := w.sightings ++ [sighting] }
  | save name blob next, w => (next (w.save name blob).1).advance (w.save name blob).2

def round : List (Script α) → World → List (Script α) × World
  | [], w => ([], w)
  | s :: rest, w =>
    let (s, w) := s.advance w
    let (rest, w) := round rest w
    (s :: rest, w)

def runEach : List (Script α) → World → List α × World
  | [], w => ([], w)
  | s :: rest, w =>
    let (a, w) := s.run w
    let (as, w) := runEach rest w
    (a :: as, w)

def runTogether : (rounds : Nat) → List (Script α) → World → List α × World
  | 0, ss, w => runEach ss w
  | n + 1, ss, w =>
    let (ss, w) := round ss w
    runTogether n ss w

end Script
end StorageConsole
