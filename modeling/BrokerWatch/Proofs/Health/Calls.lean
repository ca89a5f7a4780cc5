import BrokerWatch.Health.Evaluation

/-!
# Calls and their outcomes

What the cluster replies to a call depends only on how many calls of its kind came before. A caller
who waits gets from each call a value or a text that says why there is none, and the world that the
call leaves differs from the one before by the reply taken, the time spent and the event recorded. A
caller who loses patience has made the call and gets nothing. The evaluations reach the calls only
through these facts.
-/

namespace BrokerWatch

/-- The answer at a place when answers are given in turn. -/
def turn {α : Type} (whenNone : α) (answers : List α) (n : Nat) : α :=
  (answers[n]?.or answers.getLast?).getD whenNone

theorem inTurn_fst {α : Type} (whenNone : α) (answers : List α) :
    (inTurn whenNone answers).1 = turn whenNone answers 0 := by
  match answers with
  | [] => rfl
  | [_] => rfl
  | _ :: _ :: _ => rfl

theorem turn_inTurn_snd {α : Type} (whenNone : α) (answers : List α) (n : Nat) :
    turn whenNone (inTurn whenNone answers).2 n = turn whenNone answers (n + 1) := by
  match answers with
  | [] => rfl
  | [answer] => cases n <;> rfl
  | _ :: answer :: rest => simp [inTurn, turn]

@[simp] theorem Failure.message_connection (reason : String) :
    (Failure.connection reason).message = reason := rfl

namespace Cluster

/-- What a call comes to that is given a time: its value, or in words why there is none. -/
def Reply.within {α : Type} (timeout : Duration) : Reply α → Except String α
  | .after delay result =>
    if delay ≤ timeout then result.mapError Failure.message
    else .error s!"deadline exceeded after {timeout.text}"
  | .never => .error s!"deadline exceeded after {timeout.text}"

end Cluster

namespace Health

open Admin Cluster

/-- What stopped an operation, in words. -/
def obstacle (operation text : String) : String :=
  s!"{operation}: {text}"

/-- The outcome of a call is its value, or a failure whose text names the operation. -/
theorem outcome_eq {α : Type} (timeout : Duration) (operation : String) (reply : Reply α) :
    outcome timeout operation reply =
      (reply.within timeout).mapError fun text => .connection (obstacle operation text) := by
  cases reply with
  | never => rfl
  | after delay result =>
    simp only [outcome, Reply.within]
    split
    · cases result <;> rfl
    · rfl

namespace World

def connectReply (w : World) : Reply Unit :=
  turn (.now (.ok ())) w.cluster.connect 0

/-- The cluster's reply to a question for a snapshot, `n` others being asked before it. -/
def snapshotReply (w : World) (n : Nat) : Reply Metadata :=
  turn (.now (.error noReply)) w.cluster.metadata n

def logDirsReply (w : World) : Reply LogDirs :=
  turn (.now (.error noReply)) w.cluster.logDirs 0

/-- The world after a call that leaves the cluster in a state and takes a time. -/
def called (w : World) (event : Event) (cluster : Behaviour) (span : Duration) : World :=
  { w.record [event] with cluster, now := w.now + span }

def afterConnect (w : World) (timeout : Duration) : World :=
  w.called .connect
    { w.cluster with connect := (inTurn (.now (.ok ())) w.cluster.connect).2 }
    (spent timeout w.connectReply)

def afterSnapshot (w : World) (timeout : Duration) : World :=
  w.called .fetchMetadata
    { w.cluster with metadata := (inTurn (.now (.error noReply)) w.cluster.metadata).2 }
    (spent timeout (w.snapshotReply 0))

def afterLogDirs (w : World) (timeout : Duration) (id : Int32) : World :=
  w.called (.describeLogDirs id)
    { w.cluster with logDirs := (inTurn (.now (.error noReply)) w.cluster.logDirs).2 }
    (spent timeout w.logDirsReply)

section Called

variable (w : World) (event : Event) (cluster : Behaviour) (span : Duration)

@[simp] theorem events_called : (w.called event cluster span).events = w.events ++ [event] := by
  simp [called, events, record]

end Called

variable (w : World) (timeout : Duration) (lines : List Logging.Record)

@[simp] theorem patience_afterConnect : (w.afterConnect timeout).patience = w.patience := rfl

@[simp] theorem patience_afterSnapshot : (w.afterSnapshot timeout).patience = w.patience := rfl

@[simp] theorem events_afterConnect :
    (w.afterConnect timeout).events = w.events ++ [.connect] :=
  events_called ..

@[simp] theorem events_afterSnapshot :
    (w.afterSnapshot timeout).events = w.events ++ [.fetchMetadata] :=
  events_called ..

@[simp] theorem events_afterLogDirs (id : Int32) :
    (w.afterLogDirs timeout id).events = w.events ++ [.describeLogDirs id] :=
  events_called ..

@[simp] theorem snapshotReply_afterConnect (n : Nat) :
    (w.afterConnect timeout).snapshotReply n = w.snapshotReply n := rfl

@[simp] theorem snapshotReply_afterSnapshot (n : Nat) :
    (w.afterSnapshot timeout).snapshotReply n = w.snapshotReply (n + 1) :=
  turn_inTurn_snd ..

@[simp] theorem logDirsReply_afterConnect :
    (w.afterConnect timeout).logDirsReply = w.logDirsReply := rfl

@[simp] theorem logDirsReply_afterSnapshot :
    (w.afterSnapshot timeout).logDirsReply = w.logDirsReply := rfl

/-- What is logged has no part in anything else. -/
def withLog (w : World) (lines : List Logging.Record) : World :=
  { w with log := lines }

@[simp] theorem patience_withLog : (w.withLog lines).patience = w.patience := rfl

@[simp] theorem events_withLog : (w.withLog lines).events = w.events := rfl

@[simp] theorem snapshotReply_withLog (n : Nat) :
    (w.withLog lines).snapshotReply n = w.snapshotReply n := rfl

@[simp] theorem logDirsReply_withLog : (w.withLog lines).logDirsReply = w.logDirsReply := rfl

@[simp] theorem events_noted (line : Logging.Record) : (w.noted line).events = w.events := rfl

@[simp] theorem events_record (seen : List Event) :
    (w.record seen).events = w.events ++ seen := by
  simp [events, record, Function.comp_def]

end World

/-! ### Running a course of calls -/

theorem bind_run {α β : Type} {course : Eval α} {next : α → Eval β} {w w' : World} {a : α}
    (h : course w = (some a, w')) : (course >>= next) w = next a w' := by
  simp only [bind, OptionT.bind, OptionT.mk, StateT.bind, h]

theorem bind_abandoned {α β : Type} {course : Eval α} {w w' : World} (h : course w = (none, w'))
    (next : α → Eval β) : (course >>= next) w = (none, w') := by
  simp only [bind, OptionT.bind, OptionT.mk, StateT.bind, h]
  rfl

theorem bounded_run {α : Type} (timeout : Duration) (operation : String) (reply : Reply α)
    {w : World} (hw : w.gaveUp (spent timeout reply) = none) :
    bounded timeout operation reply w =
      (some (outcome timeout operation reply), { w with now := w.now + spent timeout reply }) := by
  have hwait : wait (spent timeout reply) w =
      (some (), { w with now := w.now + spent timeout reply }) := by
    rw [wait, hw]
  rw [bounded, bind_run hwait]
  rfl

theorem bounded_abandoned {α : Type} (timeout : Duration) (operation : String) (reply : Reply α)
    {w : World} {moment : Duration} (hw : w.gaveUp (spent timeout reply) = some moment) :
    bounded timeout operation reply w = (none, { w with now := moment }) := by
  have hwait : wait (spent timeout reply) w = (none, { w with now := moment }) := by
    rw [wait, hw]
  rw [bounded, bind_abandoned hwait]

theorem World.gaveUp_of_patient {w : World} (hw : w.patience = none) (span : Duration) :
    w.gaveUp span = none := by
  simp [gaveUp, hw]

section Call

variable {α : Type} {take : Eval (Reply α)} {reply : Reply α} {event : Event}
  {cluster : Behaviour} {w : World} {timeout : Duration}

/-- A call takes its reply, by which the cluster changes, and then waits for it. -/
theorem call_run (hw : w.gaveUp (spent timeout reply) = none)
    (htake : take w = (some reply, { w.record [event] with cluster })) (operation : String) :
    (take >>= bounded timeout operation) w =
      (some (outcome timeout operation reply),
        w.called event cluster (spent timeout reply)) := by
  have hwaits : ({ w.record [event] with cluster } : World).gaveUp (spent timeout reply) =
      none := hw
  rw [bind_run htake, bounded_run _ _ _ hwaits]
  rfl

/-- A caller who loses patience has made the call all the same. -/
theorem call_abandoned {moment : Duration} (hw : w.gaveUp (spent timeout reply) = some moment)
    (htake : take w = (some reply, { w.record [event] with cluster })) (operation : String) :
    (take >>= bounded timeout operation) w =
      (none, { w.record [event] with cluster, now := moment }) := by
  have hgone : ({ w.record [event] with cluster } : World).gaveUp (spent timeout reply) =
      some moment := hw
  rw [bind_run htake, bounded_abandoned _ _ _ hgone]

end Call

theorem fetchMetadata_run (timeout : Duration) {w : World} (hw : w.patience = none) :
    fetchMetadata timeout w =
      (some (outcome timeout "failed to fetch metadata" (w.snapshotReply 0)),
        w.afterSnapshot timeout) := by
  refine call_run (World.gaveUp_of_patient hw _) ?_ _
  rw [World.snapshotReply, ← inTurn_fst]
  rfl

theorem describeLogDirs_run (timeout : Duration) (id : Int32) {w : World}
    (hw : w.patience = none) :
    describeLogDirs timeout id w =
      (some (outcome timeout "failed to describe log dirs" w.logDirsReply),
        w.afterLogDirs timeout id) := by
  refine call_run (World.gaveUp_of_patient hw _) ?_ _
  rw [World.logDirsReply, ← inTurn_fst]
  rfl

theorem takeConnect_run (w : World) :
    takeConnect w = (some w.connectReply, { w.record [.connect] with
      cluster := { w.cluster with connect := (inTurn (.now (.ok ())) w.cluster.connect).2 } }) := by
  rw [World.connectReply, ← inTurn_fst]
  rfl

/-- The line about an opened session is all that tells an attempt to open one from the other
calls. -/
theorem connect_run (timeout : Duration) {w : World}
    (hw : w.gaveUp (spent timeout w.connectReply) = none) :
    ∃ lines, connect timeout w =
      (some (outcome timeout "failed to create admin client" w.connectReply),
        (w.afterConnect timeout).withLog lines) := by
  have hcall : (takeConnect >>= bounded timeout "failed to create admin client") w =
      (some (outcome timeout "failed to create admin client" w.connectReply),
        w.afterConnect timeout) :=
    call_run hw (takeConnect_run w) _
  rw [connect, ← bind_assoc, bind_run hcall]
  cases outcome timeout "failed to create admin client" w.connectReply with
  | error failure => exact ⟨_, rfl⟩
  | ok _ => exact ⟨_, rfl⟩

theorem connect_abandoned (timeout : Duration) {w : World} {moment : Duration}
    (hw : w.gaveUp (spent timeout w.connectReply) = some moment) :
    ∃ w', connect timeout w = (none, w') ∧ w'.events = w.events ++ [.connect] := by
  have hcall := call_abandoned hw (takeConnect_run w) "failed to create admin client"
  rw [connect, ← bind_assoc, bind_abandoned hcall]
  exact ⟨_, rfl, w.events_record [.connect]⟩

end Health

end BrokerWatch
