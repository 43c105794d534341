import DockerizedLambda.Lib.Transition
import DockerizedLambda.Lib.Channel
import DockerizedLambda.DataStructure.QueueSet

/-! `PortManager`: the queue of available ports, the values that own a port, and the
channel on which a dropped owner sends its port back. The available queue's lock is
never held across an await, so each of its critical sections is one step. -/

namespace DockerizedLambda

def portReleaseChannelCapacity : Nat := 1000

/-- `Range<u16>`: the ports from `start` up to, but not including, `finish`. -/
structure PortRange where
  start : UInt16
  finish : UInt16
deriving DecidableEq, Repr

def PortRange.ports (r : PortRange) : List UInt16 :=
  (List.range' r.start.toNat (r.finish.toNat - r.start.toNat)).map UInt16.ofNat

structure AllocatedPort where
  port : UInt16
deriving DecidableEq, Repr

inductive PortError
  | noAvailablePorts
deriving DecidableEq, Repr

structure PortManager where
  availablePorts : QueueSet UInt16
  portRelease : Channel UInt16 portReleaseChannelCapacity
  /-- The message that `process_port_returns` has received and not yet re-inserted. -/
  returning : Option UInt16
  live : List AllocatedPort
  /-- Ports whose return was refused by a full channel. -/
  leaked : List UInt16

namespace PortManager

def new (portRange : PortRange) : PortManager :=
  let portCount := portRange.finish.toNat - portRange.start.toNat
  { availablePorts := portRange.ports.foldl (fun q port => (q.pushBack port).1)
      (QueueSet.withCapacity portCount)
    portRelease := Channel.empty
    returning := none
    live := []
    leaked := [] }

def allocatePort (m : PortManager) : Except PortError AllocatedPort × PortManager :=
  match m.availablePorts.popFront with
  | (some port, rest) =>
    (.ok ⟨port⟩, { m with availablePorts := rest, live := ⟨port⟩ :: m.live })
  | (none, rest) => (.error .noAvailablePorts, { m with availablePorts := rest })

def drop (m : PortManager) (p : AllocatedPort) : PortManager :=
  match m.portRelease.trySend p.port with
  | .ok portRelease => { m with portRelease, live := m.live.erase p }
  | .error .full => { m with live := m.live.erase p, leaked := p.port :: m.leaked }
  | .error .closed => { m with live := m.live.erase p }

/-- `process_port_returns`: the receive, and the re-insertion under the lock. -/
def recvPort (m : PortManager) : Option PortManager :=
  match m.returning, m.portRelease.recv with
  | none, some (port, portRelease) => some { m with portRelease, returning := some port }
  | _, _ => none

def reinsert (m : PortManager) : Option PortManager :=
  match m.returning with
  | some port =>
    some { m with availablePorts := (m.availablePorts.pushBack port).1, returning := none }
  | none => none

inductive Action
  | allocatePort
  | drop (p : AllocatedPort)
  | recvPort
  | reinsert
deriving DecidableEq, Repr

def step (m : PortManager) : Action → Option PortManager
  | .allocatePort => some m.allocatePort.2
  | .drop p => if p ∈ m.live then some (m.drop p) else none
  | .recvPort => m.recvPort
  | .reinsert => m.reinsert

def system (portRange : PortRange) : Transition.System PortManager Action :=
  ⟨new portRange, step⟩

def inTransit (m : PortManager) : List UInt16 := m.returning.toList ++ m.portRelease.messages

def livePorts (m : PortManager) : List UInt16 := m.live.map AllocatedPort.port

end PortManager

end DockerizedLambda
