import P2PTransmission.Realtime.Socket
import P2PTransmission.Realtime.Request
import P2PTransmission.Foundation.Run

/-!
# Runs of the server

A `World` is the shared server with its tasks: the sockets, the requests and the passes of the maintenance. A task works
off its cleanup before anything else. `World.step` is one event: someone comes or sends, a writer takes a message, or a
task makes its next call; any order of events is a run.
-/

set_option autoImplicit false

namespace P2PTransmission

inductive Work where
  | socket (socket : Socket)
  | request (request : Request)
  | maintenance (maintenance : Maintenance)
  deriving DecidableEq

structure Task where
  cleanup : Cleanup
  work : Work
  deriving DecidableEq

/-- Tasks are numbered, and the task of a connection has the number of the connection. -/
structure World where
  server : Server
  tasks : BTreeMap Nat Task
  deriving DecidableEq

inductive Label where
  | createSession (session : Session)
  | createRoom (id : RoomId) (code : RoomCode) (owner : SessionId) (now expiresAt : Nat)
  | connect (task : Nat) (sessionId : SessionId) (now : Nat)
  | request (task : Nat) (sessionId : SessionId) (now : Nat) (call : RequestCall)
  | maintain (task : Nat)
  | receive (task : Nat) (frame : Frame)
  | hangUp (task : Nat)
  | take (task : Nat)
  | closeReceiver (task : Nat)
  | run (task : Nat) (choice : Choice)
  | restart
  deriving DecidableEq

namespace Work

/-- The next call of a task without cleanup. -/
def step (n : Nat) (choice : Choice) (server : Server) : Work → Option (Server × List Attachment × Work)
  | .socket client => (client.step n choice server).map fun (server, cleanup, client) => (server, cleanup, .socket client)
  | .request handler =>
    (handler.step choice server).map fun (server, cleanup, handler) => (server, cleanup, .request handler)
  | .maintenance pass => (pass.step choice server).map fun (server, cleanup, pass) => (server, cleanup, .maintenance pass)

/-- A task that makes no call until someone sends something. -/
def Idle : Work → Prop
  | .socket client => client.point = .listening ∨ client.point = .closed
  | .request handler => handler.point = .answered
  | .maintenance pass => pass = .finished

instance : (work : Work) → Decidable work.Idle
  | .socket client => inferInstanceAs (Decidable (client.point = .listening ∨ client.point = .closed))
  | .request handler => inferInstanceAs (Decidable (handler.point = .answered))
  | .maintenance pass => inferInstanceAs (Decidable (pass = .finished))

end Work

namespace Task

/-- A task with nothing to clean up. -/
def of (work : Work) : Task := { cleanup := .of [], work }

def step (n : Nat) (choice : Choice) (server : Server) (task : Task) : Option (Server × Task) :=
  if task.cleanup.Done then
    (task.work.step n choice server).map fun (server, cleanup, work) => (server, { cleanup := .of cleanup, work })
  else (task.cleanup.step choice server).map fun (server, cleanup) => (server, { task with cleanup })

def Idle (task : Task) : Prop := task.cleanup.Done ∧ task.work.Idle

instance (task : Task) : Decidable task.Idle := inferInstanceAs (Decidable (task.cleanup.Done ∧ task.work.Idle))

end Task

namespace World

variable (world : World)

def initial (queueCapacity joinRequestTtl : Nat) : World :=
  { server :=
      { joinRequestTtl, rooms := ∅, sessions := ∅, hub := .new queueCapacity, produced := [], broadcasts := [] }
    tasks := ∅ }

/-- No handler and no cleanup is in flight. -/
def Quiescent : Prop := ∀ (n : Nat) (task : Task), world.tasks[n]? = some task → task.Idle

def setTask (n : Nat) (work : Work) : World :=
  { world with tasks := world.tasks.insert n (.of work) }

def setServer (server : Server) : World := { world with server }

/-- The socket of a task that waits for a message. -/
def listening (n : Nat) : Option Socket :=
  match world.tasks[n]? with
  | some { cleanup, work := .socket socket } =>
    if cleanup.Done ∧ socket.point = .listening then some socket else none
  | _ => none

def createRoom (id : RoomId) (code : RoomCode) (owner : SessionId) (now expiresAt : Nat) : Option World :=
  if world.server.sessions.contains owner ∧ world.server.rooms[code]? = none ∧
      (world.server.rooms.toList.all fun e => e.2.id ≠ id) then
    match Room.create id code owner now expiresAt with
    | .error _ => none
    | .ok (room, _) =>
      some (world.setServer { world.server with rooms := world.server.rooms.insert code room })
  else none

def step : Label → Option World
  | .createSession session =>
    if world.server.sessions.contains session.id then none
    else some (world.setServer { world.server with sessions := world.server.sessions.insert session.id session })
  | .createRoom id code owner now expiresAt => world.createRoom id code owner now expiresAt
  | .connect n sessionId now =>
    if world.tasks.contains n then none
    else match world.server.authenticate now sessionId with
      | .error _ => none
      | .ok session =>
        some ((world.setServer { world.server with hub := world.server.hub.register n session.id }).setTask n
          (.socket (.opened session)))
  | .request n sessionId now call =>
    if world.tasks.contains n then none
    else match world.server.authenticate now sessionId with
      | .error _ => none
      | .ok session => some (world.setTask n (.request { session, point := .start call }))
  | .maintain n => if world.tasks.contains n then none else some (world.setTask n (.maintenance .start))
  | .receive n frame => (world.listening n).map fun socket => world.setTask n (.socket (socket.receive frame))
  | .hangUp n => (world.listening n).map fun socket => world.setTask n (.socket (socket.goto .closing))
  | .take n => some (world.setServer { world.server with hub := world.server.hub.take n })
  | .closeReceiver n => some (world.setServer { world.server with hub := world.server.hub.closeReceiver n })
  | .run n choice =>
    match world.tasks[n]? with
    | none => none
    | some task =>
      (task.step n choice world.server).map fun (server, task) =>
        { server, tasks := world.tasks.insert n task }
  | .restart => some
      { server := { world.server with hub := .new world.server.hub.queueCapacity }, tasks := ∅ }

def Step (world : World) (label : Label) (world' : World) : Prop := world.step label = some world'

/-- The world after a list of labels, if every one of them can happen. -/
def runAll (world : World) : List Label → Option World
  | [] => some world
  | label :: labels => (world.step label).bind fun world => world.runAll labels

theorem run_of_runAll {world world' : World} {labels : List Label} (h : world.runAll labels = some world') :
    Run Step world labels world' := by
  induction labels generalizing world with
  | nil =>
    cases h
    exact .nil _
  | cons label labels ih =>
    obtain ⟨next, hstep, hrest⟩ := Option.bind_eq_some_iff.mp h
    exact .cons hstep (ih hrest)

end World

end P2PTransmission
