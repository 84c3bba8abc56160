import ScriptBench.Editor.Session
import ScriptBench.Highlight.StyleMap
import ScriptBench.Run.Execution

/-!
A submitted run goes to its end at once; what it reported waits in its channel. Settings that pass
their check always make a workbench, as no search for keywords or extensions is too large to build.
-/

namespace ScriptBench.Editor

open Config (Settings)
open Highlight (Span)
open Run (Channel Event Host Note Outcome Started)

structure Workbench where
  settings : Settings
  session : Session
  host : Host
  notes : List Note

namespace Workbench

def new (settings : Settings) (host : Host) : Except Config.Fault Workbench := do
  let settings ← settings.validate
  pure ⟨settings, .new, host, []⟩

def setText (w : Workbench) (text : String) : Workbench :=
  { w with session := w.session.setText text }

def cancelNoting (w : Workbench) (why : Nat → Note) : Workbench :=
  match w.session.live with
  | none => w
  | some l =>
    let killed := match l.job with
      | some p => if p.kills then [.killing p.pid] else []
      | none => []
    { w with session := w.session.cancel, notes := w.notes ++ why l.id :: killed }

def cancel (w : Workbench) : Workbench := w.cancelNoting .cancelling

def filesAfter (w : Workbench) (run : Started Channel) : Machine.Files :=
  match run.job with
  | some p => p.files
  | none => (Run.launch w.settings.runner w.host w.session.text).2

def submit (w : Workbench) : Nat × Workbench :=
  let w := w.cancelNoting .cancellingPrevious
  let runner := w.settings.runner
  let started : Started Channel :=
    .start w.session.nextId runner w.host w.session.text .new
  let run := started.complete
  let (id, session) := w.session.submit run.sink.dropSender run.job
  (id, { w with
    session
    host := { w.host.withFiles (w.filesAfter run) with pid := w.host.pid + 1 }
    notes := w.notes ++ run.notes runner w.host ++ [.submitted id] })

def noting (w : Workbench) (lost : Bool) (session : Session) : Workbench :=
  { w with session, notes := if lost then w.notes ++ [.endedWithoutOutcome] else w.notes }

def loses (w : Workbench) : Bool :=
  match w.session.live with
  | none => false
  | some l => !l.channel.hasSender && (Run.outcomes l.channel.waiting).isEmpty

def nextEvent (w : Workbench) : Option Event × Workbench :=
  let (e, session) := w.session.nextEvent
  (e, w.noting (w.loses && !session.isRunning) session)

def poll (w : Workbench) : List Event × Workbench :=
  let (events, session) := w.session.poll
  (events, w.noting (w.loses && !session.isRunning) session)

def finish (w : Workbench) : List Event × Workbench :=
  let (events, session) := w.session.finish
  (events, w.noting (w.loses && !session.isRunning) session)

def keywordSpans (w : Workbench) : List Span :=
  Highlight.keywordSpans w.settings.keywords w.session.text

def styleMap (w : Workbench) : List Span :=
  Highlight.styleMap w.settings.keywords w.session.text w.session.positions

end Workbench

end ScriptBench.Editor
