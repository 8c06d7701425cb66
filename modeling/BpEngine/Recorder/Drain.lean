import BpEngine.Library.Parties
import BpEngine.Recorder.EventBuffer

/-!
# What becomes of an accepted event

* `Turn.Keeps` says what a worker does to the events it holds and to the buffer: none is lost or
  doubled unless it is dropped, and no batch is over the size (`turn_keeps`).
* `Conserved` is the invariant of every schedule, `Attended` the one of the schedules in which every
  event is accepted while a worker is in its loop.
* `work` bounds what the workers still do by themselves after the stop.
* `accepted_handed_once` puts these together for the schedules in which the sink returns.
-/

namespace BpEngine.Recorder

open Machine

variable {E : Type} {config : WriterConfig}

/-! ## A turn of a worker -/

/-- The batch a worker collects is not full. -/
def Worker.Fits (size : ℕ) : Worker E → Prop
  | .starting batch => batch.length < size
  | .waiting batch _ => batch.length < size
  | .settling batch _ _ => batch.length < size
  | _ => True

/-- The worker has not passed its last look at the buffer. -/
def Worker.inLoop : Worker E → Bool
  | .closing => false
  | .ended => false
  | .failed _ => false
  | _ => true

/-- The worker has not raised and was not cancelled. -/
def Worker.sound : Worker E → Bool
  | .failed _ => false
  | _ => true

/-- The sink returns and nothing is cancelled. -/
def WorkerEvent.quiet : WorkerEvent → Bool
  | .sinkRaises => false
  | .cancelled => false
  | _ => true

/-- What a turn does with the events that the worker and the buffer had. -/
structure Turn.Keeps (size : ℕ) (events : Multiset E) (turn : Turn E) : Prop where
  conserved : events = turn.worker.held + turn.queue + turn.handed.toList.flatten + turn.lost
  fits : turn.worker.Fits size
  size : ∀ batch ∈ turn.handed, batch.length ≤ size

/-- A turn of the loop: nothing is dropped, and the loop is left with an empty buffer only. -/
structure Turn.Loops (turn : Turn E) : Prop where
  lost : turn.lost = []
  sound : turn.worker.sound = true
  inLoop : turn.queue ≠ [] → turn.worker.inLoop = true

namespace Worker

variable {size : ℕ} {stop stopped : Bool} {queue batch : List E}

variable (queue batch) in
theorem close_keeps (hbatch : batch.length ≤ size) :
    (close queue batch).Keeps size (batch + queue : Multiset E) := by
  unfold close
  split_ifs with hempty
  · exact ⟨by simp [held, hempty], trivial, by simp⟩
  · exact ⟨by simp [held, add_comm], trivial, by simpa using hbatch⟩

variable (stop queue batch) in
theorem loopTop_keeps (hbatch : batch.length < size) :
    (loopTop stop queue batch).Keeps size (batch + queue : Multiset E) := by
  unfold loopTop
  split_ifs
  · exact close_keeps queue batch hbatch.le
  · exact ⟨by simp [held], hbatch, by simp⟩

variable (stop stopped queue) in
theorem afterPause_keeps (hsize : 0 < size) :
    (afterPause stop stopped queue).Keeps size (queue : Multiset E) := by
  have hclose := close_keeps queue [] (Nat.zero_le size)
  have htop := loopTop_keeps stop queue [] hsize
  rw [Multiset.coe_nil, zero_add] at hclose htop
  unfold afterPause
  split_ifs
  · exact hclose
  · exact htop

theorem fill_append (size : ℕ) (batch queue : List E) :
    (fill size batch queue).1 ++ (fill size batch queue).2 = batch ++ queue := by
  induction queue generalizing batch with
  | nil => rfl
  | cons event queue ih =>
    unfold fill
    split_ifs
    · rw [ih, List.append_assoc, List.singleton_append]
    · rfl

theorem fill_grows (batch queue : List E) : batch.length ≤ (fill size batch queue).1.length := by
  induction queue generalizing batch with
  | nil => exact le_rfl
  | cons event queue ih =>
    unfold fill
    split_ifs
    · have hrest := ih (batch ++ [event])
      rw [List.length_append, List.length_singleton] at hrest
      omega
    · exact le_rfl

theorem fill_length (batch queue : List E) (hbatch : batch.length ≤ size) :
    (fill size batch queue).1.length ≤ size := by
  induction queue generalizing batch with
  | nil => exact hbatch
  | cons event queue ih =>
    unfold fill
    split_ifs with hroom
    · exact ih _ (by rw [List.length_append, List.length_singleton]; omega)
    · exact hbatch

theorem received_keeps (hbatch : batch.length < size) (event : Option E) :
    (received size stop queue batch event stopped).Keeps size
      ((batch ++ event.toList : List E) + queue : Multiset E) := by
  unfold received
  cases event with
  | none =>
    rw [Option.toList_none, List.append_nil]
    dsimp only
    split_ifs with hempty
    · rw [hempty, Multiset.coe_nil, zero_add]
      exact afterPause_keeps stop stopped queue (by omega)
    · exact ⟨by simp [held, add_comm], trivial, by simpa using hbatch.le⟩
  | some event =>
    have hparts := fill_append size (batch ++ [event]) queue
    have hroom : (batch ++ [event]).length ≤ size := by
      rw [List.length_append, List.length_singleton]
      omega
    have hlength := fill_length (batch ++ [event]) queue hroom
    have hevents : ((batch ++ (some event).toList : List E) + queue : Multiset E) =
        (fill size (batch ++ [event]) queue).1 + (fill size (batch ++ [event]) queue).2 := by
      rw [Multiset.coe_add, Multiset.coe_add, hparts]
      rfl
    dsimp only
    rw [hevents]
    split_ifs with hfull
    · exact ⟨by simp [held, add_comm], trivial, by simpa using hlength⟩
    · exact loopTop_keeps stop _ _ (by omega)

/-- **What a worker can do**, with what it finds. -/
inductive Turns (size : ℕ) (stop : Bool) (queue : List E) : Worker E → WorkerEvent → Turn E → Prop
  | begins : Turns size stop queue .created .begins (loopTop stop queue [])
  | waits (batch : List E) (hqueue : queue = []) :
    Turns size stop queue (.starting batch) .gets { worker := .waiting batch none, queue }
  | takes (batch : List E) (event : E) (rest : List E) (hqueue : queue = event :: rest) :
    Turns size stop queue (.starting batch) .gets
      { worker := .waiting batch (some event), queue := rest }
  | gets (batch : List E) (event : E) (rest : List E) (hqueue : queue = event :: rest) :
    Turns size stop queue (.waiting batch none) .gets
      { worker := .waiting batch (some event), queue := rest }
  | left (event : E) (rest : List E) (hqueue : queue = event :: rest) :
    Turns size stop queue (.failed true) .gets
      { worker := .failed false, queue := rest, lost := [event] }
  | stops (batch : List E) (event : E) (hstop : stop = true) :
    Turns size stop queue (.waiting batch (some event)) (.wakes true)
      (received size stop queue batch (some event) true)
  | wakes (batch : List E) (event : Option E) (stopSeen : Bool) :
    Turns size stop queue (.waiting batch event) (.wakes stopSeen)
      { worker := .settling batch event (stopSeen && stop), queue }
  | settles (batch : List E) (event : Option E) (stopped : Bool) :
    Turns size stop queue (.settling batch event stopped) .settles
      (received size stop queue batch event stopped)
  | resumes (stopped : Bool) :
    Turns size stop queue (.pausing stopped) .sinkReturns (afterPause stop stopped queue)
  | writes : Turns size stop queue .writing .sinkReturns (loopTop stop queue [])
  | closes : Turns size stop queue .closing .sinkReturns { worker := .ended, queue }
  | fails (worker : Worker E) (event : WorkerEvent) (hevent : event.quiet = false) :
    Turns size stop queue worker event (fail worker queue)

theorem turns_of_turn {worker : Worker E} {event : WorkerEvent} {turn : Turn E}
    (hturn : worker.turn size stop queue event = some turn) :
    Turns size stop queue worker event turn := by
  unfold Worker.turn at hturn
  split at hturn
  · cases hturn
    exact .begins
  · split at hturn <;> cases hturn
    · exact .waits _ rfl
    · exact .takes _ _ _ rfl
  · split at hturn <;> cases hturn
    exact .gets _ _ _ rfl
  · split at hturn <;> cases hturn
    exact .left _ _ rfl
  · split_ifs at hturn with hboth <;> cases hturn
    · simp only [Bool.and_eq_true] at hboth
      obtain ⟨⟨rfl, hstop⟩, hsome⟩ := hboth
      obtain ⟨event, rfl⟩ := Option.isSome_iff_exists.mp hsome
      exact .stops _ _ hstop
    · exact .wakes _ _ _
  all_goals cases hturn
  · exact .settles _ _ _
  · exact .resumes _
  · exact .writes
  · exact .closes
  all_goals exact .fails _ _ rfl

/-- **What a turn does with events.** -/
theorem turn_keeps {worker : Worker E} {event : WorkerEvent} {turn : Turn E} (hsize : 0 < size)
    (hfits : worker.Fits size) (hturn : worker.turn size stop queue event = some turn) :
    turn.Keeps size (worker.held + queue : Multiset E) := by
  have htop := loopTop_keeps stop queue [] hsize
  cases turns_of_turn hturn with
  | begins => exact htop
  | waits batch hqueue => exact ⟨by simp [held], hfits, by simp⟩
  | takes batch event rest hqueue => exact ⟨by simp [held, hqueue], hfits, by simp⟩
  | gets batch event rest hqueue => exact ⟨by simp [held, hqueue], hfits, by simp⟩
  | left event rest hqueue =>
    have hmoved : ((event :: rest : List E) : Multiset E) = rest + ({event} : Multiset E) := by
      rw [← Multiset.coe_singleton, Multiset.coe_add]
      exact Multiset.coe_eq_coe.mpr (List.perm_append_singleton event rest).symm
    exact ⟨by simpa [held, hqueue] using hmoved, trivial, by simp⟩
  | stops batch event hstop => exact received_keeps hfits _
  | wakes batch event stopSeen => exact ⟨by simp [held], hfits, by simp⟩
  | settles batch event stopped => exact received_keeps hfits _
  | resumes stopped => simpa [held] using afterPause_keeps stop stopped queue hsize
  | writes => exact htop
  | closes => exact ⟨by simp [held], trivial, by simp⟩
  | fails worker event hevent => exact ⟨by simp [fail, held, add_comm], trivial, by simp [fail]⟩

variable (queue batch) in
theorem close_loops : (close queue batch).lost = [] ∧ (close queue batch).worker.sound = true ∧
    (close queue batch).queue = queue := by
  unfold close
  split_ifs <;> exact ⟨rfl, rfl, rfl⟩

theorem loopTop_loops (stop : Bool) (queue batch : List E) : (loopTop stop queue batch).Loops := by
  unfold loopTop
  split_ifs with hlast
  · obtain ⟨hlost, hsound, hqueue⟩ := close_loops queue batch
    refine ⟨hlost, hsound, fun hrest => absurd ?_ hrest⟩
    rw [hqueue]
    exact List.isEmpty_iff.mp (Bool.and_eq_true _ _ ▸ hlast).2
  · exact ⟨rfl, rfl, fun _ => rfl⟩

theorem afterPause_loops (stop stopped : Bool) (queue : List E) :
    (afterPause stop stopped queue).Loops := by
  unfold afterPause
  split_ifs with hlast
  · obtain ⟨hlost, hsound, hqueue⟩ := close_loops queue []
    refine ⟨hlost, hsound, fun hrest => absurd ?_ hrest⟩
    rw [hqueue]
    exact List.isEmpty_iff.mp (Bool.and_eq_true _ _ ▸ hlast).2
  · exact loopTop_loops stop queue []

theorem received_loops (size : ℕ) (stop stopped : Bool) (queue batch : List E) (event : Option E) :
    (received size stop queue batch event stopped).Loops := by
  unfold received
  cases event with
  | none =>
    dsimp only
    split_ifs
    · exact afterPause_loops stop stopped queue
    · exact ⟨rfl, rfl, fun _ => rfl⟩
  | some event =>
    dsimp only
    split_ifs
    · exact ⟨rfl, rfl, fun _ => rfl⟩
    · exact loopTop_loops _ _ _

/-- A turn of a worker in its loop, with a sink that returns. -/
theorem turn_loops {worker : Worker E} {event : WorkerEvent} {turn : Turn E}
    (hloop : worker.inLoop = true) (hquiet : event.quiet = true)
    (hturn : worker.turn size stop queue event = some turn) : turn.Loops := by
  cases turns_of_turn hturn with
  | begins => exact loopTop_loops _ _ _
  | waits batch hqueue => exact ⟨rfl, rfl, fun _ => rfl⟩
  | takes batch event rest hqueue => exact ⟨rfl, rfl, fun _ => rfl⟩
  | gets batch event rest hqueue => exact ⟨rfl, rfl, fun _ => rfl⟩
  | left event rest hqueue => cases hloop
  | stops batch event hstop => exact received_loops _ _ _ _ _ _
  | wakes batch event stopSeen => exact ⟨rfl, rfl, fun _ => rfl⟩
  | settles batch event stopped => exact received_loops _ _ _ _ _ _
  | resumes stopped => exact afterPause_loops _ _ _
  | writes => exact loopTop_loops _ _ _
  | closes => cases hloop
  | fails worker event hevent =>
    rw [hevent] at hquiet
    cases hquiet

/-- A turn of a worker that has left its loop. -/
theorem turn_left {worker : Worker E} {event : WorkerEvent} {turn : Turn E}
    (hsound : worker.sound = true) (hloop : worker.inLoop = false) (hquiet : event.quiet = true)
    (hturn : worker.turn size stop queue event = some turn) :
    turn = { worker := .ended, queue } := by
  cases turns_of_turn hturn with
  | closes => rfl
  | fails worker event hevent =>
    rw [hevent] at hquiet
    cases hquiet
  | left event rest hqueue => cases hsound
  | _ => cases hloop

end Worker

/-! ## Every schedule -/

namespace RecorderState

/-- The events that are accepted and have not reached the sink: in the buffer, or with a worker. -/
def held (recorder : RecorderState E) : List E :=
  recorder.queue ++ recorder.workers.flatMap Worker.held

/-- **Every accepted event** is in the buffer, with a worker, with the sink or dropped, once. -/
structure Conserved (config : WriterConfig) (recorder : RecorderState E) : Prop where
  conserved : (recorder.accepted : Multiset E) =
    recorder.queue + (recorder.workers.map fun worker => (worker.held : Multiset E)).sum +
      recorder.handed.flatten + recorder.lost
  fits : ∀ worker ∈ recorder.workers, worker.Fits config.batchSize
  size : ∀ batch ∈ recorder.handed, batch.length ≤ config.batchSize

theorem start_conserved (config : WriterConfig) (producerCount : ℕ) :
    (start config producerCount : RecorderState E).Conserved config where
  conserved := by simp [start, Worker.held]
  fits worker hworker := by
    rw [List.eq_of_mem_replicate hworker]
    trivial
  size := by simp [start]

theorem exec_conserved {recorder : RecorderState E} (hinv : recorder.Conserved config)
    (action : Action E) : (exec config recorder action).Conserved config := by
  cases action with
  | setStop => exact ⟨hinv.conserved, hinv.fits, hinv.size⟩
  | producer place event =>
    cases hturn : recorder.producerTurn config place event with
    | none => simpa only [exec, hturn] using hinv
    | some result =>
      obtain ⟨producer, accepted⟩ := result
      simp only [exec, hturn]
      refine ⟨?_, hinv.fits, hinv.size⟩
      simp only [afterOffer, ← Multiset.coe_add, hinv.conserved]
      abel
  | worker place event =>
    cases hturn : recorder.workerTurn config place event with
    | none => simpa only [exec, hturn] using hinv
    | some turn =>
      simp only [exec, hturn]
      obtain ⟨worker, hworker, hturn⟩ := Option.bind_eq_some_iff.mp hturn
      have hkeeps := Worker.turn_keeps config.batchSize_pos
        (hinv.fits worker (List.mem_of_getElem? hworker)) hturn
      have hsum := Parties.sum_map_set turn.worker
        (fun worker => (worker.held : Multiset E)) hworker
      refine ⟨?_, Parties.forall_mem_set hinv.fits hkeeps.fits, ?_⟩
      · simp only [afterTurn, List.flatten_append, ← Multiset.coe_add, hinv.conserved]
        generalize (recorder.workers.map fun worker => (worker.held : Multiset E)).sum = before
          at hsum ⊢
        generalize ((recorder.workers.set place turn.worker).map
          fun worker => (worker.held : Multiset E)).sum = after at hsum ⊢
        refine add_right_cancel (b := (worker.held : Multiset E)) ?_
        calc (recorder.queue + before + recorder.handed.flatten + recorder.lost + worker.held :
              Multiset E)
            = (worker.held + recorder.queue) + before + recorder.handed.flatten +
                recorder.lost := by abel
          _ = turn.queue + (before + turn.worker.held) + recorder.handed.flatten +
                turn.handed.toList.flatten + recorder.lost + turn.lost := by
              rw [hkeeps.conserved]
              abel
          _ = _ := by
              rw [← hsum]
              abel
      · intro batch hbatch
        rcases List.mem_append.mp hbatch with hold | hnew
        · exact hinv.size batch hold
        · exact hkeeps.size batch (Option.mem_toList.mp hnew)

/-! ## Schedules in which the sink returns -/

/-- No worker has raised or was cancelled, and nothing was dropped. -/
structure Sound (recorder : RecorderState E) : Prop where
  lost : recorder.lost = []
  sound : ∀ worker ∈ recorder.workers, worker.sound = true

/-- Some worker has not passed its last look at the buffer. -/
def looping (recorder : RecorderState E) : Bool := recorder.workers.any Worker.inLoop

/-- There is a worker for what is in the buffer. -/
def Attended (recorder : RecorderState E) : Prop := recorder.queue ≠ [] → recorder.looping = true

/-- The writer has returned. -/
def writerEnded (recorder : RecorderState E) : Bool :=
  recorder.workers.all fun worker => match worker with
    | .ended => true
    | _ => false

end RecorderState

/-- The sink returns and nothing is cancelled. -/
def Action.quiet : Action E → Bool
  | .worker _ event => event.quiet
  | _ => true

/-- The action puts an event into the buffer. -/
def accepts (config : WriterConfig) (recorder : RecorderState E) : Action E → Bool
  | .producer place event =>
    (recorder.producerTurn config place event).any fun result => result.2.isSome
  | _ => false

/-- An event is accepted only while a worker has not passed its last look at the buffer. -/
def OnTime (config : WriterConfig) (recorder : RecorderState E) (action : Action E) : Prop :=
  accepts config recorder action = true → recorder.looping = true

instance (recorder : RecorderState E) (action : Action E) :
    Decidable (OnTime config recorder action) :=
  inferInstanceAs (Decidable (_ → _))

namespace RecorderState

variable {recorder : RecorderState E} {action : Action E}

theorem looping_iff : recorder.looping = true ↔
    ∃ worker ∈ recorder.workers, worker.inLoop = true := by
  simp [looping]

/-- What a turn of a worker leaves, with a sink that returns. -/
theorem turn_of_quiet (hsound : recorder.Sound) {place : ℕ} {event : WorkerEvent}
    (hquiet : event.quiet = true) {turn : Turn E}
    (hturn : recorder.workerTurn config place event = some turn) :
    ∃ worker, recorder.workers[place]? = some worker ∧ turn.lost = [] ∧ turn.worker.sound = true ∧
      (worker.inLoop = true → turn.queue ≠ [] → turn.worker.inLoop = true) ∧
      (worker.inLoop = false → turn.queue = recorder.queue ∧ turn.worker.inLoop = false) := by
  obtain ⟨worker, hworker, hturn⟩ := Option.bind_eq_some_iff.mp hturn
  have hmem := hsound.sound worker (List.mem_of_getElem? hworker)
  cases hloop : worker.inLoop with
  | true =>
    have hloops := Worker.turn_loops hloop hquiet hturn
    exact ⟨worker, hworker, hloops.lost, hloops.sound, fun _ => hloops.inLoop,
      fun h => Bool.noConfusion (hloop.symm.trans h)⟩
  | false =>
    obtain rfl := Worker.turn_left hmem hloop hquiet hturn
    exact ⟨worker, hworker, rfl, rfl, fun h => Bool.noConfusion (hloop.symm.trans h),
      fun _ => ⟨rfl, rfl⟩⟩

theorem exec_sound (hsound : recorder.Sound) (hquiet : action.quiet = true) :
    (exec config recorder action).Sound := by
  cases action with
  | setStop => exact ⟨hsound.lost, hsound.sound⟩
  | producer place event =>
    cases hturn : recorder.producerTurn config place event with
    | none => simpa only [exec, hturn] using hsound
    | some result =>
      simp only [exec, hturn]
      exact ⟨hsound.lost, hsound.sound⟩
  | worker place event =>
    cases hturn : recorder.workerTurn config place event with
    | none => simpa only [exec, hturn] using hsound
    | some turn =>
      simp only [exec, hturn]
      obtain ⟨worker, -, hlost, hnew, -, -⟩ := turn_of_quiet hsound hquiet hturn
      refine ⟨?_, Parties.forall_mem_set hsound.sound hnew⟩
      simp only [afterTurn, hsound.lost, hlost, List.append_nil]

/-- An event on time keeps the buffer attended, a late one leaves it without a worker. -/
theorem exec_attended (hsound : recorder.Sound) (hattended : recorder.Attended)
    (hquiet : action.quiet = true) :
    (exec config recorder action).Attended ↔ OnTime config recorder action := by
  cases action with
  | setStop => exact ⟨fun _ => nofun, fun _ => hattended⟩
  | producer place event =>
    cases hturn : recorder.producerTurn config place event with
    | none => simpa [exec, hturn, OnTime, accepts] using hattended
    | some result =>
      obtain ⟨producer, accepted⟩ := result
      have hlooping : (recorder.afterOffer place producer accepted).looping = recorder.looping := rfl
      simp only [exec, hturn, OnTime, accepts, Option.any_some, Attended, hlooping]
      cases accepted with
      | none => simpa [afterOffer, Attended] using hattended
      | some event => simp [afterOffer]
  | worker place event =>
    refine ⟨fun _ => nofun, fun _ => ?_⟩
    cases hturn : recorder.workerTurn config place event with
    | none => simpa only [exec, hturn] using hattended
    | some turn =>
      simp only [exec, hturn]
      obtain ⟨worker, hworker, -, -, hin, hout⟩ := turn_of_quiet hsound hquiet hturn
      intro hqueue
      rw [looping_iff]
      cases hloop : worker.inLoop with
      | true => exact ⟨turn.worker, Parties.mem_set_self hworker, hin hloop hqueue⟩
      | false =>
        have hbefore : recorder.queue ≠ [] := by rwa [← (hout hloop).1]
        refine Parties.exists_mem_set hworker (looping_iff.mp (hattended hbefore)) fun h => ?_
        rw [hloop] at h
        cases h

/-- What is left without a worker stays in the buffer. -/
theorem exec_unattended (hsound : recorder.Sound) (hleft : ¬ recorder.Attended)
    (hquiet : action.quiet = true) : ¬ (exec config recorder action).Attended := by
  obtain ⟨hqueue, hnone⟩ := Classical.not_imp.mp hleft
  cases action with
  | setStop => exact fun h => hnone (h hqueue)
  | producer place event =>
    cases hturn : recorder.producerTurn config place event with
    | none =>
      simp only [exec, hturn]
      exact fun h => hnone (h hqueue)
    | some result =>
      simp only [exec, hturn]
      exact fun h => hnone (h (by simp [afterOffer, hqueue]))
  | worker place event =>
    cases hturn : recorder.workerTurn config place event with
    | none =>
      simp only [exec, hturn]
      exact fun h => hnone (h hqueue)
    | some turn =>
      simp only [exec, hturn]
      obtain ⟨worker, hworker, -, -, -, hout⟩ := turn_of_quiet hsound hquiet hturn
      have hidle : ∀ worker ∈ recorder.workers, worker.inLoop = false := by
        simpa [looping] using hnone
      obtain ⟨hsame, hnew⟩ := hout (hidle worker (List.mem_of_getElem? hworker))
      intro h
      have hafter : (recorder.afterTurn place turn).queue ≠ [] :=
        fun hempty => hqueue (hsame.symm.trans hempty)
      obtain ⟨other, hother, hloop⟩ := looping_iff.mp (h hafter)
      have hidle' : other.inLoop = false := Parties.forall_mem_set hidle hnew other hother
      rw [hidle'] at hloop
      cases hloop

/-! ## What the workers do after the stop -/

end RecorderState

namespace Worker

/-- What a worker still does by itself, with the buffer empty or not. -/
def workLeft (isEmpty : Bool) : Worker E → ℕ
  | .created => 7
  | .starting _ => if isEmpty then 6 else 2
  | .waiting _ _ => 5
  | .settling _ _ _ => 4
  | .pausing _ => 3
  | .writing => 3
  | .closing => 1
  | .ended => 0
  | .failed _ => 0

theorem workLeft_le (isEmpty : Bool) (worker : Worker E) : worker.workLeft isEmpty ≤ 7 := by
  cases worker <;> simp only [workLeft] <;> (try split_ifs) <;> omega

theorem workLeft_le_add (isEmpty wasEmpty : Bool) (worker : Worker E) :
    worker.workLeft isEmpty ≤ worker.workLeft wasEmpty + 4 := by
  cases worker <;> simp only [workLeft] <;> (try split_ifs) <;> omega

/-- The buffer is no longer than it was, and little is left to do. -/
structure Shrinks (queue : List E) (bound : ℕ) (turn : Turn E) : Prop where
  queue : turn.queue.length ≤ queue.length
  work : turn.worker.workLeft turn.queue.isEmpty ≤ bound

variable {size : ℕ} {stopped : Bool} {queue batch : List E}

theorem close_shrinks : Shrinks queue 2 (close queue batch) := by
  unfold close
  split_ifs
  · exact ⟨le_rfl, Nat.zero_le 2⟩
  · exact ⟨le_rfl, Nat.le_succ 1⟩

theorem loopTop_shrinks : Shrinks queue 2 (loopTop true queue batch) := by
  unfold loopTop
  split_ifs with hlast
  · exact close_shrinks
  · have hqueue : queue.isEmpty = false := by simpa using hlast
    exact ⟨le_rfl, by simp [workLeft, hqueue]⟩

theorem afterPause_shrinks : Shrinks queue 2 (afterPause true stopped queue) := by
  unfold afterPause
  split_ifs
  · exact close_shrinks
  · exact loopTop_shrinks

theorem received_shrinks (event : Option E) :
    Shrinks queue 3 (received size true queue batch event stopped) := by
  unfold received
  cases event with
  | none =>
    dsimp only
    split_ifs
    · exact ⟨afterPause_shrinks.queue, afterPause_shrinks.work.trans (Nat.le_succ 2)⟩
    · exact ⟨le_rfl, le_rfl⟩
  | some event =>
    have hlength : (fill size (batch ++ [event]) queue).2.length ≤ queue.length := by
      have hparts := congrArg List.length (fill_append size (batch ++ [event]) queue)
      have hfirst : (batch ++ [event]).length ≤ (fill size (batch ++ [event]) queue).1.length :=
        fill_grows _ _
      rw [List.length_append, List.length_append] at hparts
      omega
    dsimp only
    split_ifs
    · exact ⟨hlength, le_rfl⟩
    · exact ⟨loopTop_shrinks.queue.trans hlength, loopTop_shrinks.work.trans (Nat.le_succ 2)⟩

/-- After the stop a turn leaves a shorter buffer, or less to do for its worker. -/
theorem turn_work {worker : Worker E} {event : WorkerEvent} {turn : Turn E}
    (hsound : worker.sound = true) (hquiet : event.quiet = true)
    (hturn : worker.turn size true queue event = some turn) :
    turn.queue.length < queue.length ∨ turn.queue.length = queue.length ∧
      turn.worker.workLeft turn.queue.isEmpty < worker.workLeft queue.isEmpty := by
  have hless : ∀ {bound : ℕ}, Shrinks queue bound turn → bound < worker.workLeft queue.isEmpty →
      turn.queue.length < queue.length ∨ turn.queue.length = queue.length ∧
        turn.worker.workLeft turn.queue.isEmpty < worker.workLeft queue.isEmpty :=
    fun hshrinks hbound =>
      hshrinks.queue.lt_or_eq.imp_right fun hsame => ⟨hsame, hshrinks.work.trans_lt hbound⟩
  cases turns_of_turn hturn with
  | begins => exact hless loopTop_shrinks (by simp [workLeft])
  | waits batch hqueue => exact .inr ⟨rfl, by simp [workLeft, hqueue]⟩
  | takes batch event rest hqueue => exact .inl (by simp [hqueue])
  | gets batch event rest hqueue => exact .inl (by simp [hqueue])
  | left event rest hqueue => cases hsound
  | stops batch event hstop => exact hless (received_shrinks _) (by simp [workLeft])
  | wakes batch event stopSeen => exact .inr ⟨rfl, by simp [workLeft]⟩
  | settles batch event stopped => exact hless (received_shrinks _) (by simp [workLeft])
  | resumes stopped => exact hless afterPause_shrinks (by simp [workLeft])
  | writes => exact hless loopTop_shrinks (by simp [workLeft])
  | closes => exact .inr ⟨rfl, by simp [workLeft]⟩
  | fails worker event hevent =>
    rw [hevent] at hquiet
    cases hquiet

/-- After the stop a worker that has not returned can do something. -/
theorem exists_turn {worker : Worker E} (hsound : worker.sound = true) (hended : worker ≠ .ended)
    (size : ℕ) (queue : List E) :
    ∃ event : WorkerEvent, event.quiet = true ∧ (worker.turn size true queue event).isSome = true := by
  cases worker with
  | created => exact ⟨.begins, rfl, rfl⟩
  | starting batch =>
    refine ⟨.gets, rfl, ?_⟩
    cases queue <;> rfl
  | waiting batch event =>
    refine ⟨.wakes true, rfl, ?_⟩
    cases event <;> rfl
  | settling batch event stopped => exact ⟨.settles, rfl, rfl⟩
  | pausing stopped => exact ⟨.sinkReturns, rfl, rfl⟩
  | writing => exact ⟨.sinkReturns, rfl, rfl⟩
  | closing => exact ⟨.sinkReturns, rfl, rfl⟩
  | ended => exact absurd rfl hended
  | failed getting => cases hsound

end Worker

namespace RecorderState

variable {recorder : RecorderState E} {action : Action E}

/-- What the workers still do by themselves. -/
def work (recorder : RecorderState E) : ℕ :=
  (4 * recorder.workers.length + 8) * recorder.queue.length +
    (recorder.workers.map (Worker.workLeft recorder.queue.isEmpty)).sum

/-- A worker does something, and the sink returns. -/
def Works (config : WriterConfig) (recorder : RecorderState E) : Action E → Prop
  | .worker place event =>
    event.quiet = true ∧ (recorder.workerTurn config place event).isSome = true
  | _ => False

theorem sum_workLeft_le (isEmpty wasEmpty : Bool) (workers : List (Worker E)) :
    (workers.map (Worker.workLeft isEmpty)).sum ≤
      (workers.map (Worker.workLeft wasEmpty)).sum + 4 * workers.length := by
  induction workers with
  | nil => exact le_rfl
  | cons worker workers ih =>
    have hfirst := Worker.workLeft_le_add isEmpty wasEmpty worker
    simp only [List.map_cons, List.sum_cons, List.length_cons]
    omega

theorem work_exec_lt (hsound : recorder.Sound) (hstop : recorder.stop = true)
    (hworks : Works config recorder action) : (exec config recorder action).work < recorder.work := by
  cases action with
  | setStop => cases hworks
  | producer place event => cases hworks
  | worker place event =>
    obtain ⟨hquiet, hsome⟩ := hworks
    obtain ⟨turn, hturn⟩ := Option.isSome_iff_exists.mp hsome
    simp only [exec, hturn]
    obtain ⟨worker, hworker, hturn⟩ := Option.bind_eq_some_iff.mp hturn
    rw [hstop] at hturn
    have hwork := Worker.turn_work (hsound.sound worker (List.mem_of_getElem? hworker)) hquiet hturn
    have hsum := Parties.sum_map_set turn.worker (Worker.workLeft turn.queue.isEmpty) hworker
    have hlength : (recorder.afterTurn place turn).workers.length = recorder.workers.length :=
      List.length_set
    unfold work
    rw [hlength]
    simp only [afterTurn]
    rcases hwork with hshorter | ⟨hsame, hless⟩
    · have hbefore := sum_workLeft_le turn.queue.isEmpty recorder.queue.isEmpty recorder.workers
      have hnew := Worker.workLeft_le turn.queue.isEmpty turn.worker
      have hproduct : (4 * recorder.workers.length + 8) * (turn.queue.length + 1) ≤
          (4 * recorder.workers.length + 8) * recorder.queue.length :=
        Nat.mul_le_mul_left _ hshorter
      rw [Nat.mul_add, Nat.mul_one] at hproduct
      omega
    · have hempty : turn.queue.isEmpty = recorder.queue.isEmpty := by
        rw [Bool.eq_iff_iff, List.isEmpty_iff_length_eq_zero, List.isEmpty_iff_length_eq_zero,
          hsame]
      rw [hempty] at hsum hless ⊢
      rw [hsame]
      omega

theorem exec_stop (hstop : recorder.stop = true) (action : Action E) :
    (exec config recorder action).stop = true := by
  cases action with
  | setStop => rfl
  | producer place event =>
    simp only [exec]
    split <;> exact hstop
  | worker place event =>
    simp only [exec]
    split <;> exact hstop

/-- After the stop the workers do no more than `work`, in whatever order. -/
theorem length_le_work (hsound : recorder.Sound) (hstop : recorder.stop = true)
    {later : List (Action E)} (hlater : Along (exec config) (Works config) recorder later) :
    later.length ≤ recorder.work := by
  refine length_le_measure (exec config) work (J := fun r => r.Sound ∧ r.stop = true)
    (fun r action hr hworks => ⟨exec_sound hr.1 ?_, exec_stop hr.2 action⟩)
    (fun r action hr hworks => work_exec_lt hr.1 hr.2 hworks) ⟨hsound, hstop⟩ hlater
  cases action with
  | worker place event => exact hworks.1
  | setStop => rfl
  | producer place event => rfl

/-- A writer that can do nothing after the stop has returned. -/
theorem writerEnded_of_not_works (hsound : recorder.Sound) (hstop : recorder.stop = true)
    (hnone : ∀ action, ¬ Works config recorder action) : recorder.writerEnded = true := by
  rw [writerEnded, List.all_eq_true]
  intro worker hmem
  obtain ⟨place, hplace⟩ := List.mem_iff_getElem?.mp hmem
  by_contra hended
  have hne : worker ≠ .ended := fun h => hended (by rw [h])
  obtain ⟨event, hquiet, hturn⟩ := Worker.exists_turn (hsound.sound worker hmem) hne
    config.batchSize recorder.queue
  refine hnone (.worker place event) ⟨hquiet, ?_⟩
  rw [workerTurn, hplace, hstop]
  exact hturn

/-! ## Runs -/

theorem run_conserved (hinv : recorder.Conserved config) (actions : List (Action E)) :
    (run (exec config) recorder actions).Conserved config :=
  run_invariant' (exec config) (J := fun r => r.Conserved config)
    (fun _ action hinv => exec_conserved hinv action) hinv actions

theorem run_sound (hsound : recorder.Sound) {actions : List (Action E)}
    (hquiet : Along (exec config) (fun _ action => action.quiet = true) recorder actions) :
    (run (exec config) recorder actions).Sound :=
  run_invariant (exec config) (fun _ _ hsound hquiet => exec_sound hsound hquiet) hsound hquiet

theorem run_unattended (hsound : recorder.Sound) (hleft : ¬ recorder.Attended)
    {actions : List (Action E)}
    (hquiet : Along (exec config) (fun _ action => action.quiet = true) recorder actions) :
    ¬ (run (exec config) recorder actions).Attended :=
  (run_invariant (exec config) (J := fun r => r.Sound ∧ ¬ r.Attended)
    (fun _ _ h hquiet => ⟨exec_sound h.1 hquiet, exec_unattended h.1 h.2 hquiet⟩)
    ⟨hsound, hleft⟩ hquiet).2

/-- The buffer is attended at the end of a run exactly when every event came on time. -/
theorem run_attended_iff (hsound : recorder.Sound) (hattended : recorder.Attended)
    {actions : List (Action E)}
    (hquiet : Along (exec config) (fun _ action => action.quiet = true) recorder actions) :
    (run (exec config) recorder actions).Attended ↔
      Along (exec config) (OnTime config) recorder actions := by
  induction actions generalizing recorder with
  | nil => exact ⟨fun _ => trivial, fun _ => hattended⟩
  | cons action actions ih =>
    have hnext : (exec config recorder action).Sound := exec_sound hsound hquiet.1
    have hstep : (exec config recorder action).Attended ↔ OnTime config recorder action :=
      exec_attended hsound hattended hquiet.1
    rw [run_cons]
    constructor
    · intro hend
      have hkept : (exec config recorder action).Attended := by
        by_contra hleft
        exact run_unattended hnext hleft hquiet.2 hend
      exact ⟨hstep.mp hkept, (ih hnext hkept hquiet.2).mp hend⟩
    · rintro ⟨hfirst, hrest⟩
      exact (ih hnext (hstep.mpr hfirst) hquiet.2).mpr hrest

/-- What is accepted is with the sink or held, once. -/
theorem Conserved.perm (hinv : recorder.Conserved config) (hsound : recorder.Sound) :
    recorder.accepted.Perm (recorder.handed.flatten ++ recorder.held) := by
  have hworkers : (recorder.workers.map fun worker => (worker.held : Multiset E)).sum =
      recorder.workers.flatMap Worker.held := by
    induction recorder.workers with
    | nil => rfl
    | cons worker workers ih => simp [ih]
  rw [← Multiset.coe_eq_coe, hinv.conserved, hworkers, hsound.lost, held]
  simp only [← Multiset.coe_add, Multiset.coe_nil]
  abel

/-- A writer that has returned holds what is in the buffer, and attends to nothing. -/
theorem held_of_writerEnded (hended : recorder.writerEnded = true) :
    recorder.held = recorder.queue ∧ recorder.looping = false := by
  have hall : ∀ worker ∈ recorder.workers, worker = .ended := by
    intro worker hmem
    have hworker := List.all_eq_true.mp hended worker hmem
    cases worker <;> first | rfl | cases hworker
  constructor
  · have hnone : recorder.workers.flatMap Worker.held = [] := by
      rw [List.flatMap_eq_nil_iff]
      intro worker hmem
      rw [hall worker hmem]
      rfl
    rw [held, hnone, List.append_nil]
  · rw [looping, List.any_eq_false]
    intro worker hmem
    rw [hall worker hmem]
    exact Bool.false_ne_true

end RecorderState

/-- **What becomes of an accepted event** when the sink returns and nothing is cancelled: every batch
is within its size, what the sink does not have is still held, and once the writer has returned the
sink has every event exactly once, exactly when each was accepted while a worker had not passed its
last look at the buffer.  After the stop the writer does return, in a bounded number of steps. -/
theorem accepted_handed_once (config : WriterConfig) (producerCount : ℕ) {actions : List (Action E)}
    (hquiet : Along (exec config) (fun _ action => action.quiet = true)
      (start config producerCount) actions) :
    let recorder := run (exec config) (start config producerCount) actions
    (∀ batch ∈ recorder.handed, batch.length ≤ config.batchSize) ∧
      recorder.accepted.Perm (recorder.handed.flatten ++ recorder.held) ∧
      (recorder.writerEnded = true →
        (recorder.accepted.Perm recorder.handed.flatten ↔
          Along (exec config) (OnTime config) (start config producerCount) actions)) ∧
      (recorder.stop = true →
        (∀ later, Along (exec config) (RecorderState.Works config) recorder later →
          later.length ≤ recorder.work) ∧
        ((∀ action, ¬ RecorderState.Works config recorder action) →
          recorder.writerEnded = true)) := by
  intro recorder
  have hstart : (start config producerCount : RecorderState E).Sound :=
    ⟨rfl, fun worker hworker => by rw [List.eq_of_mem_replicate hworker]; rfl⟩
  have hinv : recorder.Conserved config :=
    RecorderState.run_conserved (RecorderState.start_conserved config producerCount) actions
  have hsound : recorder.Sound := RecorderState.run_sound hstart hquiet
  have hattended : recorder.Attended ↔
      Along (exec config) (OnTime config) (start config producerCount) actions :=
    RecorderState.run_attended_iff hstart (fun h => absurd rfl h) hquiet
  have hperm := hinv.perm hsound
  refine ⟨hinv.size, hperm, fun hended => ?_, fun hstop =>
    ⟨fun later => RecorderState.length_le_work hsound hstop,
      RecorderState.writerEnded_of_not_works hsound hstop⟩⟩
  obtain ⟨hheld, hlooping⟩ := RecorderState.held_of_writerEnded hended
  rw [← hattended]
  constructor
  · intro hall hqueue
    -- an event in the buffer is accepted and not handed
    have hlength := hperm.length_eq
    rw [hall.length_eq, List.length_append, hheld] at hlength
    exact absurd (List.length_eq_zero_iff.mp (by omega)) hqueue
  · intro hkept
    have hempty : recorder.queue = [] := by
      by_contra hqueue
      rw [hkept hqueue] at hlooping
      cases hlooping
    rwa [hheld, hempty, List.append_nil] at hperm

/-! ### Two shutdowns -/

/-- A buffer of two places, one worker, and batches of two. -/
def sampleConfig : WriterConfig where
  maxsize := 2
  batchSize := 2
  workerCount := 1
  maxsize_pos := by decide
  batchSize_pos := by decide
  workerCount_pos := Nat.one_pos

/-- The stop comes while the writer still has three events, the last of which had to wait. -/
def drained : List (Action ℕ) :=
  [.worker 0 .begins, .worker 0 .gets, .producer 0 (.receives [1, 2, 3]), .producer 0 .offers,
    .producer 0 .offers, .producer 0 .offers, .worker 0 .gets, .producer 0 .unblocks, .setStop,
    .worker 0 (.wakes false), .worker 0 .settles, .worker 0 .sinkReturns, .worker 0 .gets,
    .worker 0 (.wakes true), .worker 0 .sinkReturns]

/-- The stop comes while a frame is processed; its event is accepted after the worker has left. -/
def leftBehind : List (Action ℕ) :=
  [.worker 0 .begins, .worker 0 .gets, .producer 0 (.receives [1]), .setStop,
    .worker 0 (.wakes true), .worker 0 .settles, .producer 0 .offers]

theorem accepted_handed_once_sample :
    (run (exec sampleConfig) (start sampleConfig 1) drained).accepted.Perm
      (run (exec sampleConfig) (start sampleConfig 1) drained).handed.flatten :=
  ((@accepted_handed_once ℕ sampleConfig 1 drained (by decide)).2.2.1 (by decide)).mpr (by decide)

/-- A shutdown loses an event that was accepted. -/
theorem not_accepted_handed_once :
    ¬ ∀ (config : WriterConfig) (producerCount : ℕ) (actions : List (Action ℕ)),
      Along (exec config) (fun _ action => action.quiet = true) (start config producerCount)
        actions →
      (run (exec config) (start config producerCount) actions).writerEnded = true →
      (run (exec config) (start config producerCount) actions).accepted.Perm
        (run (exec config) (start config producerCount) actions).handed.flatten := by
  intro h
  exact absurd (h sampleConfig 1 leftBehind (by decide) (by decide)) (by decide)

end BpEngine.Recorder
