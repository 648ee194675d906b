import EchoBench.Net.Stream

/-!
# `EchoBench.Rehearsal`: the programs against a script

In a rehearsal one side is a program and the other follows a script, so everything that happens
follows from the script and from the `Network` between the two. A rehearsal may fail to come about
(`Rehearsed`): the script needs connections of its own, and it may wait for a call that never comes.
-/

set_option autoImplicit false

namespace EchoBench.Rehearsal

open EchoBench.Net

/-- The network of a rehearsal. -/
inductive Network
  /-- The machine reaches itself and nothing else. -/
  | loopback
  /-- The machine reaches nothing, not even itself. -/
  | isolated
  deriving DecidableEq, Repr

/-- What became of a rehearsal. -/
inductive Rehearsed (α : Type)
  | played (result : α)
  /-- A program stopped, and left a text. -/
  | crashed (text : String)
  /-- A side waits for something that never comes. -/
  | stuck
  /-- The script could not make a connection of its own. -/
  | unprepared (cause : IoError)
  /-- The script goes on with a connection that was not made. -/
  | unconnected
  deriving Repr

/-- How a machine tells addresses apart. -/
inductive Reach
  /-- An address of version 4, by its parts, also where it is written as one of version 6. -/
  | v4 (parts : List Nat)
  /-- The address of version 6 that stands for all. -/
  | all
  /-- The address of version 6 by which the machine calls itself. -/
  | self
  /-- An address that is local to an interface, and does not say to which. -/
  | linkLocal
  /-- An address that stands for many machines. -/
  | group
  /-- Any other address of version 6. -/
  | other
  deriving DecidableEq, Repr

/-- How a machine sees an address. -/
def Reach.ofIp : Ip → Reach
  | .v4 a b c d => .v4 [a.toNat, b.toNat, c.toNat, d.toNat]
  | .v6 groups =>
    match groups.toList.map UInt16.toNat with
    | [0, 0, 0, 0, 0, 0, 0, 0] => .all
    | [0, 0, 0, 0, 0, 0, 0, 1] => .self
    | [0, 0, 0, 0, 0, 0xffff, high, low] => .v4 [high / 256, high % 256, low / 256, low % 256]
    | first :: _ =>
      if 0xff00 ≤ first then .group
      else if 0xfe80 ≤ first ∧ first < 0xfec0 then .linkLocal
      else .other
    | [] => .other

namespace Network

/-- Why a host cannot be called. In isolation there is no way out for addresses of version 4, and
there is no address to call from for those of version 6. -/
def barrier (network : Network) (host : String) : Option IoError :=
  match network with
  | loopback => none
  | isolated =>
    match (Ip.ofText? host).map Reach.ofIp with
    | some .linkLocal => some .invalidArgument
    | some .all | some .self | some .other => some .addressNotAvailable
    | some (.v4 _) | some .group | none => some .networkUnreachable

/-- Why an address of version 4 cannot be listened on. In isolation no table says which addresses
the machine has, and none is refused. -/
def faultV4 (network : Network) (parts : List Nat) : Option IoError :=
  match network, parts with
  | isolated, _ | loopback, 127 :: _ | loopback, [0, 0, 0, 0] => none
  | loopback, _ => some .addressNotAvailable

/-- Why an address cannot be listened on. -/
def addressFault (network : Network) (ip : Ip) : Option IoError :=
  match Reach.ofIp ip with
  | .v4 parts => network.faultV4 parts
  | .all => none
  | .self => if network = loopback then none else some .addressNotAvailable
  | .linkLocal | .group => some .invalidArgument
  | .other => some .addressNotAvailable

/-- Why an address cannot be listened on, of which the port may be taken. -/
def bindFault (network : Network) (ip : Ip) (taken : Bool) : Option IoError :=
  match network.addressFault ip with
  | some cause => some cause
  | none => if taken then some .addressInUse else none

end Network

/-- The host of the script's own connections. -/
def ownHost : String :=
  Ip.loopback.text

/-- Plays a rehearsal for which the script needs a connection of its own. -/
def Rehearsed.prepared {α : Type} (network : Network) (play : Rehearsed α) : Rehearsed α :=
  match network.barrier ownHost with
  | some cause => .unprepared cause
  | none => play

/-- Plays a server that listens on an address: why it cannot. A taken port is held by a listener of
the script, which needs the address as well. -/
def rehearseBind (network : Network) (ip : Ip) (taken : Bool) : Rehearsed (Option IoError) :=
  match network.addressFault ip, taken with
  | some cause, true => .unprepared cause
  | _, _ => .played (network.bindFault ip taken)

end EchoBench.Rehearsal
