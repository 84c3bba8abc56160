import ScriptBench.Run.Event

namespace ScriptBench.Run

open Diagnostic (Record)

inductive SinkError where
  | receiverDropped
deriving DecidableEq, Repr

def SinkError.message : SinkError → String
  | .receiverDropped => "event receiver dropped"

class Sink (σ : Type) where
  emit : σ → Event → Except SinkError σ

def offer {σ : Type} [Sink σ] (s : σ) (e : Event) : σ :=
  match Sink.emit s e with
  | .ok s => s
  | .error _ => s

structure Recording where
  events : List Event
deriving DecidableEq

namespace Recording

def empty : Recording := ⟨[]⟩

instance : Sink Recording := ⟨fun r e => .ok ⟨r.events ++ [e]⟩⟩

def records (r : Recording) : List Record := Run.records r.events

def outcomes (r : Recording) : List Outcome := Run.outcomes r.events

end Recording

structure Channel where
  waiting : List Event
  hasSender : Bool
  hasReceiver : Bool
deriving DecidableEq

inductive Received where
  | event (e : Event)
  | empty
  | disconnected
deriving DecidableEq

namespace Channel

def new : Channel := ⟨[], true, true⟩

def emit (c : Channel) (e : Event) : Except SinkError Channel :=
  if c.hasReceiver then .ok { c with waiting := c.waiting ++ [e] } else .error .receiverDropped

instance : Sink Channel := ⟨emit⟩

def receive (c : Channel) : Received × Channel :=
  match c.waiting with
  | e :: more => (.event e, { c with waiting := more })
  | [] => (if c.hasSender then .empty else .disconnected, c)

def dropSender (c : Channel) : Channel := { c with hasSender := false }

def dropReceiver (c : Channel) : Channel := { c with waiting := [], hasReceiver := false }

end Channel

end ScriptBench.Run
