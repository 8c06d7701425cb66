import BpEngine.Library.Machine
import Mathlib.Tactic

/-!
# The event buffer and its writer

`recorder/writer.py`: producers put events into a bounded buffer, and the workers of a `BatchWriter`
take them out in batches until the stop signal.  An action is what one task does between two awaits,
so a list of actions is a schedule.

* `Worker` is where a worker stands, `Worker.turn` what it does next.
* `Producer` is a runner of a feed that hands its frames to `_BufferedEventSink`.
* `exec` is one action; an action that is not possible does nothing.
No times are kept: a wait may time out at any moment.  A worker may be cancelled at any await, as the
supervisor does when a component ends by itself; the incidents a producer records are left out.
-/

namespace BpEngine.Recorder

/-- The arguments of `EventBuffer` and `BatchWriter`, as their constructors accept them. -/
structure WriterConfig where
  maxsize : ℕ
  batchSize : ℕ
  workerCount : ℕ
  maxsize_pos : 0 < maxsize
  batchSize_pos : 0 < batchSize
  workerCount_pos : 0 < workerCount

variable {E : Type}

/-! ## A worker -/

/-- Where a worker stands. -/
inductive Worker (E : Type) where
  /-- Its task is created. -/
  | created
  /-- It waits for an event or the stop; the task that gets an event has not run yet. -/
  | starting (batch : List E)
  /-- The task that gets an event has run, and may have got one. -/
  | waiting (batch : List E) (event : Option E)
  /-- The wait is over and what is left of its tasks is cancelled. -/
  | settling (batch : List E) (event : Option E) (stopped : Bool)
  /-- The sink has the batch after a wait without an event. -/
  | pausing (stopped : Bool)
  /-- The sink has a full batch. -/
  | writing
  /-- The sink has the last batch. -/
  | closing
  | ended
  /-- It raised or was cancelled; a task that gets an event may be left behind. -/
  | failed (getting : Bool)

/-- What a task of a worker does. -/
inductive WorkerEvent where
  /-- The task of the worker starts. -/
  | begins
  /-- The task that gets an event takes one, or starts to wait for one. -/
  | gets
  /-- The wait returns, with the stop among what is done or not. -/
  | wakes (stopSeen : Bool)
  /-- The cancelled tasks have ended. -/
  | settles
  | sinkReturns
  | sinkRaises
  | cancelled

/-- What a worker does up to its next await: where it stands then, the buffer, the batch it hands to
the sink, and the events it drops. -/
structure Turn (E : Type) where
  worker : Worker E
  queue : List E
  handed : Option (List E) := none
  lost : List E := []

namespace Worker

/-- The last `_flush`, and the return. -/
def close (queue batch : List E) : Turn E :=
  if batch = [] then { worker := .ended, queue }
  else { worker := .closing, queue, handed := some batch }

/-- The start of the loop of `_run_worker`. -/
def loopTop (stop : Bool) (queue batch : List E) : Turn E :=
  if stop && queue.isEmpty then close queue batch else { worker := .starting batch, queue }

/-- After the `_flush` of a wait without an event; the batch is empty. -/
def afterPause (stop stopped : Bool) (queue : List E) : Turn E :=
  if stopped && queue.isEmpty then close queue [] else loopTop stop queue []

/-- The `while` loop of `_run_worker`: events from the buffer up to the size of a batch. -/
def fill (size : ℕ) : List E → List E → List E × List E
  | batch, [] => (batch, [])
  | batch, event :: queue =>
    if batch.length < size then fill size (batch ++ [event]) queue else (batch, event :: queue)

/-- `_run_worker` with what `_wait_for_event_or_stop` returned. -/
def received (size : ℕ) (stop : Bool) (queue batch : List E) (event : Option E) (stopped : Bool) :
    Turn E :=
  match event with
  | none =>
    if batch = [] then afterPause stop stopped queue
    else { worker := .pausing stopped, queue, handed := some batch }
  | some event =>
    let (batch, queue) := fill size (batch ++ [event]) queue
    if size ≤ batch.length then { worker := .writing, queue, handed := some batch }
    else loopTop stop queue batch

/-- The events a worker holds: its batch and what its task got. -/
def held : Worker E → List E
  | .starting batch => batch
  | .waiting batch event => batch ++ event.toList
  | .settling batch event _ => batch ++ event.toList
  | _ => []

/-- The end of a worker by an exception. -/
def fail (worker : Worker E) (queue : List E) : Turn E where
  worker := .failed (match worker with
    | .starting _ => true
    | .waiting _ none => true
    | _ => false)
  queue
  lost := worker.held

/-- What a worker does with an event, where that is possible. -/
def turn (size : ℕ) (stop : Bool) (queue : List E) : Worker E → WorkerEvent → Option (Turn E)
  | .created, .begins => some (loopTop stop queue [])
  | .starting batch, .gets =>
    match queue with
    | [] => some { worker := .waiting batch none, queue }
    | event :: queue => some { worker := .waiting batch (some event), queue }
  | .waiting batch none, .gets =>
    match queue with
    | [] => none
    | event :: queue => some { worker := .waiting batch (some event), queue }
  | .failed true, .gets =>
    match queue with
    | [] => none
    | event :: queue => some { worker := .failed false, queue, lost := [event] }
  | .waiting batch event, .wakes stopSeen =>
    -- with both tasks done there is nothing to cancel
    if stopSeen && stop && event.isSome then some (received size stop queue batch event true)
    else some { worker := .settling batch event (stopSeen && stop), queue }
  | .settling batch event stopped, .settles => some (received size stop queue batch event stopped)
  | .pausing stopped, .sinkReturns => some (afterPause stop stopped queue)
  | .writing, .sinkReturns => some (loopTop stop queue [])
  | .closing, .sinkReturns => some { worker := .ended, queue }
  | .pausing stopped, .sinkRaises => some (fail (.pausing stopped) queue)
  | .writing, .sinkRaises => some (fail .writing queue)
  | .closing, .sinkRaises => some (fail .closing queue)
  | .ended, _ => none
  | .failed _, _ => none
  | worker, .cancelled => some (fail worker queue)
  | _, _ => none

end Worker

/-! ## A producer -/

/-- Where the runner of a feed stands, with the events of its frame that are left. -/
inductive Producer (E : Type) where
  | idle
  | sending (events : List E)
  /-- `put` waits for a free place. -/
  | blocked (event : E) (events : List E)
  | returned

/-- What a task of a producer does. -/
inductive ProducerEvent (E : Type) where
  /-- A frame comes. -/
  | receives (events : List E)
  /-- It sees the stop without a frame. -/
  | returns
  /-- It puts the next event of the frame, or is done with the frame. -/
  | offers
  /-- The event it waits with goes in. -/
  | unblocks
  /-- The frame fails, or the runner is cancelled. -/
  | aborts

/-- What a producer does: where it stands then, and the event that is accepted. -/
def Producer.turn (maxsize : ℕ) (stop : Bool) (queue : List E) :
    Producer E → ProducerEvent E → Option (Producer E × Option E)
  | .idle, .receives events => some (.sending events, none)
  | .idle, .returns => if stop then some (.returned, none) else none
  | .sending [], .offers => some (if stop then .returned else .idle, none)
  | .sending (event :: events), .offers =>
    if queue.length < maxsize then some (.sending events, some event)
    else some (.blocked event events, none)
  | .blocked event events, .unblocks =>
    if queue.length < maxsize then some (.sending events, some event) else none
  | .sending _, .aborts => some (if stop then .returned else .idle, none)
  | .blocked _ _, .aborts => some (if stop then .returned else .idle, none)
  | _, _ => none

/-! ## The recorder -/

/-- The stop signal, the buffer, the workers and the producers, with what was accepted, handed to the
sink and dropped so far. -/
structure RecorderState (E : Type) where
  stop : Bool := false
  queue : List E := []
  workers : List (Worker E)
  producers : List (Producer E)
  accepted : List E := []
  handed : List (List E) := []
  lost : List E := []

/-- What happens next. -/
inductive Action (E : Type) where
  | setStop
  | producer (place : ℕ) (event : ProducerEvent E)
  | worker (place : ℕ) (event : WorkerEvent)

/-- A writer and its producers at the start. -/
def start (config : WriterConfig) (producerCount : ℕ) : RecorderState E where
  workers := List.replicate config.workerCount .created
  producers := List.replicate producerCount .idle

namespace RecorderState

/-- The turn of the worker at a place. -/
def workerTurn (config : WriterConfig) (recorder : RecorderState E) (place : ℕ) (event : WorkerEvent) :
    Option (Turn E) :=
  recorder.workers[place]?.bind fun worker =>
    worker.turn config.batchSize recorder.stop recorder.queue event

/-- The turn of the producer at a place. -/
def producerTurn (config : WriterConfig) (recorder : RecorderState E) (place : ℕ)
    (event : ProducerEvent E) : Option (Producer E × Option E) :=
  recorder.producers[place]?.bind fun producer =>
    producer.turn config.maxsize recorder.stop recorder.queue event

/-- The worker at a place has had its turn. -/
def afterTurn (recorder : RecorderState E) (place : ℕ) (turn : Turn E) : RecorderState E :=
  { recorder with
    queue := turn.queue
    workers := recorder.workers.set place turn.worker
    handed := recorder.handed ++ turn.handed.toList
    lost := recorder.lost ++ turn.lost }

/-- The producer at a place has had its turn. -/
def afterOffer (recorder : RecorderState E) (place : ℕ) (producer : Producer E) (event : Option E) :
    RecorderState E :=
  { recorder with
    queue := recorder.queue ++ event.toList
    producers := recorder.producers.set place producer
    accepted := recorder.accepted ++ event.toList }

end RecorderState

/-- One action. -/
def exec (config : WriterConfig) (recorder : RecorderState E) : Action E → RecorderState E
  | .setStop => { recorder with stop := true }
  | .producer place event =>
    match recorder.producerTurn config place event with
    | none => recorder
    | some (producer, accepted) => recorder.afterOffer place producer accepted
  | .worker place event =>
    match recorder.workerTurn config place event with
    | none => recorder
    | some turn => recorder.afterTurn place turn

end BpEngine.Recorder
