import JwSwarm.FleetManager.Channels
import JwSwarm.LinuxNode.Outbound
import JwSwarm.LinuxNode.TerminalFrames

namespace JwSwarm.Swarm

open Data Proto Transition FleetManager LinuxNode

/-! A Linux node and the Fleet Manager together: the node's backend and tunnel
task, the connections between the two, and the whole Fleet Manager with any
other tunnels. Every step of either side is a step of the network. -/

/-- A connection of the node: the tunnel that reads it, what the node has
written and the tunnel has not read, and what the tunnel's writer has written
and the node has not handled. -/
structure Wire where
  tunnel : TunnelId
  up : List Message := []
  down : List Message := []

/-- `wires` are the node's connections, the latest first. -/
structure Network where
  fleet : FleetState
  backend : BackendState := {}
  outbound : Outbound Message := {}
  wires : List Wire := []

/-- `fleet` is a step of the Fleet Manager by itself, `backend` one of the
node's backend, and `control` a message of the node's run loop. `push` and
`arrive` pass a message down or up a connection; `handle` is the node's run loop
at the next message that has come down. -/
inductive NetworkEvent where
  | fleet (event : FleetManager.Event)
  | backend (event : BackendEvent)
  | control (msg : Message)
  | connect
  | write (succeeds : Bool)
  | drained
  | close
  | push (wire : ℕ)
  | arrive (wire : ℕ)
  | handle (wire : ℕ) (ready serialises : Bool)

namespace Network

def owns (state : Network) (tunnel : TunnelId) : Bool :=
  state.wires.any fun wire => wire.tunnel == tunnel

/-- The Fleet Manager's own steps: no text comes from the node's connections
and no message goes down one. -/
def admits (state : Network) : FleetManager.Event → Bool
  | .receive tunnel (.text _) => !state.owns tunnel
  | .write tunnel succeeds => !succeeds || !state.owns tunnel
  | _ => true

/-- The frames that the backend has just made go to the tunnel's queue. -/
def absorb (state : Network) (backend : BackendState) : Network :=
  { state with
    backend
    outbound := { state.outbound with
      queue := state.outbound.queue ++
        backend.frames.drop state.backend.frames.length } }

def carry (state : Network) (outbound : Outbound Message)
    (msg : Message) : Network :=
  { state with
    outbound
    wires := state.wires.modifyHead fun wire =>
      { wire with up := wire.up ++ [msg] } }

def setWire (state : Network) (index : ℕ) (wire : Wire) : Network :=
  { state with wires := state.wires.set index wire }

end Network

def stepTransmit (state : Network) (succeeds : Bool) : Option Network := do
  let msg ← state.outbound.queue.head?
  let outbound ← state.outbound.send succeeds
  if succeeds then some (state.carry outbound msg)
  else some { state with outbound }

/-- A writer task of the Fleet Manager passes its next message to a connection
of the node. -/
def stepPush (app : AppState) (state : Network) (index : ℕ) :
    Option Network := do
  let wire ← state.wires[index]?
  let task ← state.fleet.tunnels[wire.tunnel]?
  let msg ← task.outbox.head?
  let fleet ← FleetManager.step app state.fleet (.write wire.tunnel true)
  some ({ state with fleet }.setWire index
    { wire with down := wire.down ++ [msg] })

/-- A read loop of the Fleet Manager gets the next text of a connection. -/
def stepArrive (app : AppState) (state : Network) (index : ℕ) :
    Option Network := do
  let wire ← state.wires[index]?
  match wire.up with
  | [] => none
  | msg :: rest =>
      let fleet ← FleetManager.step app state.fleet
        (.receive wire.tunnel (.text msg))
      some ({ state with fleet }.setWire index { wire with up := rest })

/-- Only a prompt reaches the backend. -/
def stepHandle (state : Network) (index : ℕ) (ready serialises : Bool) :
    Option Network := do
  let wire ← state.wires[index]?
  match wire.down with
  | [] => none
  | .promptDispatch prompt :: rest =>
      some ((state.setWire index { wire with down := rest }).absorb
        (stepDispatch state.backend prompt ready serialises))
  | _ :: rest => some (state.setWire index { wire with down := rest })

def stepNetwork (app : AppState) (state : Network) :
    NetworkEvent → Option Network
  | .fleet event =>
      if state.admits event then
        (FleetManager.step app state.fleet event).map fun fleet =>
          { state with fleet }
      else none
  | .backend event =>
      if event.dispatched.isNone then
        (stepBackend state.backend event).map state.absorb
      else none
  | .control msg =>
      if (frameId msg).isNone then
        (stepOutbound state.outbound (.put msg)).map fun outbound =>
          { state with outbound }
      else none
  | .connect => do
      let outbound ← stepOutbound state.outbound .connect
      let fleet ← FleetManager.step app state.fleet .connect
      some { state with
        fleet
        outbound
        wires := { tunnel := state.fleet.tunnels.length } :: state.wires }
  | .write succeeds => stepTransmit state succeeds
  | .drained => (stepOutbound state.outbound .drained).map fun outbound =>
      { state with outbound }
  | .close => (stepOutbound state.outbound .close).map fun outbound =>
      { state with outbound }
  | .push wire => stepPush app state wire
  | .arrive wire => stepArrive app state wire
  | .handle wire ready serialises => stepHandle state wire ready serialises

def network (app : AppState) : Machine Network NetworkEvent where
  init := { fleet := (fleetManager app).init }
  step := stepNetwork app

def Network.backendStep (state : Network) :
    NetworkEvent → Option BackendEvent
  | .backend event => some event
  | .handle index ready serialises =>
      match state.wires[index]?.bind fun wire => wire.down.head? with
      | some (.promptDispatch prompt) =>
          some (.dispatch prompt ready serialises)
      | _ => none
  | _ => none

def backendHistory (history : History Network NetworkEvent) :
    History BackendState BackendEvent :=
  history.filterMap fun taken =>
    (taken.1.backendStep taken.2).map fun event => (taken.1.backend, event)

variable {app : AppState} {before after : Network} {event : NetworkEvent}

inductive Moves (app : AppState) (before : Network) :
    NetworkEvent → Network → Prop
  | fleet {event : FleetManager.Event} {fleet : FleetState}
      (admitted : before.admits event = true)
      (taken : FleetManager.step app before.fleet event = some fleet) :
      Moves app before (.fleet event) { before with fleet }
  | backend {event : BackendEvent} {backend : BackendState}
      (undispatched : event.dispatched = none)
      (taken : stepBackend before.backend event = some backend) :
      Moves app before (.backend event) (before.absorb backend)
  | control {msg : Message} (unnamed : frameId msg = none) :
      Moves app before (.control msg) { before with
        outbound := { before.outbound with
          queue := before.outbound.queue ++ [msg] } }
  | connect {outbound : Outbound Message} {fleet : FleetState}
      (taken : FleetManager.step app before.fleet .connect = some fleet)
      (same : outbound.queue = before.outbound.queue) :
      Moves app before .connect { before with
        fleet
        outbound
        wires := { tunnel := before.fleet.tunnels.length } :: before.wires }
  | carried {msg : Message} {outbound : Outbound Message}
      (linked : before.outbound.link ≠ .down)
      (queue : before.outbound.queue = msg :: outbound.queue) :
      Moves app before (.write true) (before.carry outbound msg)
  | lost {msg : Message} {outbound : Outbound Message}
      (linked : before.outbound.link ≠ .down)
      (queue : before.outbound.queue = msg :: outbound.queue) :
      Moves app before (.write false) { before with outbound }
  | drained {outbound : Outbound Message}
      (linked : before.outbound.link ≠ .down)
      (same : outbound.queue = before.outbound.queue) :
      Moves app before .drained { before with outbound }
  | close {outbound : Outbound Message}
      (linked : before.outbound.link ≠ .down)
      (same : outbound.queue = before.outbound.queue) :
      Moves app before .close { before with outbound }
  | push {index : ℕ} {wire : Wire} {task : Tunnel} {msg : Message}
      {fleet : FleetState} (found : before.wires[index]? = some wire)
      (known : before.fleet.tunnels[wire.tunnel]? = some task)
      (next : task.outbox.head? = some msg)
      (taken : FleetManager.step app before.fleet (.write wire.tunnel true) =
        some fleet) :
      Moves app before (.push index) ({ before with fleet }.setWire index
        { wire with down := wire.down ++ [msg] })
  | arrive {index : ℕ} {wire : Wire} {msg : Message} {rest : List Message}
      {fleet : FleetState} (found : before.wires[index]? = some wire)
      (next : wire.up = msg :: rest)
      (taken : FleetManager.step app before.fleet
        (.receive wire.tunnel (.text msg)) = some fleet) :
      Moves app before (.arrive index) ({ before with fleet }.setWire index
        { wire with up := rest })
  | dispatch {index : ℕ} {wire : Wire} {prompt : PromptDispatch}
      {rest : List Message} {ready serialises : Bool}
      (found : before.wires[index]? = some wire)
      (next : wire.down = .promptDispatch prompt :: rest) :
      Moves app before (.handle index ready serialises)
        ((before.setWire index { wire with down := rest }).absorb
          (stepDispatch before.backend prompt ready serialises))
  | pass {index : ℕ} {wire : Wire} {msg : Message} {rest : List Message}
      {ready serialises : Bool} (found : before.wires[index]? = some wire)
      (next : wire.down = msg :: rest)
      (other : ∀ prompt, msg ≠ .promptDispatch prompt) :
      Moves app before (.handle index ready serialises)
        (before.setWire index { wire with down := rest })

section Inversion

private theorem send_queue {outbound next : Outbound Message} {succeeds : Bool}
    (taken : outbound.send succeeds = some next) :
    ∃ msg, outbound.link ≠ .down ∧ outbound.queue = msg :: next.queue := by
  unfold Outbound.send at taken
  split at taken
  · cases taken
  · cases taken
  · next text rest link queue =>
      obtain rfl := Option.some.inj taken
      refine ⟨text, by simp [link], ?_⟩
      rw [queue]
      split
      · rfl
      · rfl
  · next text rest link queue =>
      obtain rfl := Option.some.inj taken
      refine ⟨text, by simp [link], ?_⟩
      rw [queue]
      split
      · rfl
      · rfl

private theorem moves_transmit {succeeds : Bool}
    (taken : stepTransmit before succeeds = some after) :
    Moves app before (.write succeeds) after := by
  simp only [stepTransmit, Option.bind_eq_bind, Option.bind_eq_some_iff]
    at taken
  obtain ⟨msg, head, outbound, sent, result⟩ := taken
  obtain ⟨first, linked, queue⟩ := send_queue sent
  rw [queue] at head
  obtain rfl := Option.some.inj head
  cases succeeds with
  | true =>
      obtain rfl := Option.some.inj result
      exact .carried linked queue
  | false =>
      obtain rfl := Option.some.inj result
      exact .lost linked queue

private theorem moves_push {index : ℕ}
    (taken : stepPush app before index = some after) :
    Moves app before (.push index) after := by
  simp only [stepPush, Option.bind_eq_bind, Option.bind_eq_some_iff] at taken
  obtain ⟨wire, found, task, known, msg, next, fleet, moved, result⟩ := taken
  obtain rfl := Option.some.inj result
  exact .push found known next moved

private theorem moves_arrive {index : ℕ}
    (taken : stepArrive app before index = some after) :
    Moves app before (.arrive index) after := by
  simp only [stepArrive, Option.bind_eq_bind, Option.bind_eq_some_iff] at taken
  obtain ⟨wire, found, result⟩ := taken
  split at result
  · cases result
  · next msg rest next =>
      obtain ⟨fleet, moved, result⟩ := Option.bind_eq_some_iff.mp result
      obtain rfl := Option.some.inj result
      exact .arrive found next moved

private theorem moves_handle {index : ℕ} {ready serialises : Bool}
    (taken : stepHandle before index ready serialises = some after) :
    Moves app before (.handle index ready serialises) after := by
  simp only [stepHandle, Option.bind_eq_bind, Option.bind_eq_some_iff] at taken
  obtain ⟨wire, found, result⟩ := taken
  split at result
  · cases result
  · next prompt rest next =>
      obtain rfl := Option.some.inj result
      exact .dispatch found next
  · next msg rest other next =>
      obtain rfl := Option.some.inj result
      exact .pass found next other

theorem moves (taken : stepNetwork app before event = some after) :
    Moves app before event after := by
  cases event with
  | fleet event =>
      simp only [stepNetwork] at taken
      split at taken
      · next admitted =>
          obtain ⟨fleet, moved, rfl⟩ := Option.map_eq_some_iff.mp taken
          exact .fleet admitted moved
      · cases taken
  | backend event =>
      simp only [stepNetwork] at taken
      split at taken
      · next undispatched =>
          obtain ⟨backend, moved, rfl⟩ := Option.map_eq_some_iff.mp taken
          exact .backend (Option.isNone_iff_eq_none.mp undispatched) moved
      · cases taken
  | control msg =>
      simp only [stepNetwork] at taken
      split at taken
      · next unnamed =>
          obtain rfl := Option.some.inj taken
          exact .control (Option.isNone_iff_eq_none.mp unnamed)
      · cases taken
  | connect =>
      simp only [stepNetwork, Option.bind_eq_bind, Option.bind_eq_some_iff]
        at taken
      obtain ⟨outbound, linked, fleet, moved, result⟩ := taken
      obtain rfl := Option.some.inj result
      refine .connect moved ?_
      simp only [stepOutbound] at linked
      split at linked
      · obtain rfl := Option.some.inj linked
        rfl
      · cases linked
  | write succeeds => exact moves_transmit taken
  | drained =>
      obtain ⟨outbound, linked, rfl⟩ := Option.map_eq_some_iff.mp taken
      simp only [stepOutbound] at linked
      split at linked
      · next link queue =>
          obtain rfl := Option.some.inj linked
          exact .drained (by simp [link]) rfl
      · cases linked
  | close =>
      obtain ⟨outbound, linked, rfl⟩ := Option.map_eq_some_iff.mp taken
      simp only [stepOutbound] at linked
      split at linked
      · next link =>
          obtain rfl := Option.some.inj linked
          exact .close (by simp [link]) rfl
      · cases linked
  | push index => exact moves_push taken
  | arrive index => exact moves_arrive taken
  | handle index ready serialises => exact moves_handle taken

end Inversion

end JwSwarm.Swarm
