import Disposition.Database.Fault
import Disposition.Database.Url

/-!
# Several hosts

The query of the address of a server can name several hosts. Each host is given by itself with its
port behind a colon, or the hosts stand in one list and their ports in another.

* `HostList.ofUrl`: the hosts of an address, and the ports behind them.
* `DatabaseUrl.checkHosts`: the hosts and the ports fit together.
-/

namespace Disposition

/-- The hosts that a query names. -/
structure HostList where
  /-- The names of the hosts. -/
  hosts : List String := []
  /-- The ports, if they stand behind the hosts; empty where a host has none. -/
  ports : Option (List String) := none
  deriving DecidableEq, Repr

namespace HostList

open Text

/-- The parts of a text between colons. -/
def colonParts (s : String) : List String :=
  (fields ':' s.toList).map String.ofList

/-- Hosts that are given one by one. What follows the port of a host is passed over if some host has
nothing there. -/
def ofSeveral (hosts : List String) : Except EngineFault HostList :=
  let parts := hosts.map colonParts
  if parts.all fun part => 2 < part.length then .error .severalParts
  else .ok { hosts := parts.map fun part => part.headD ""
             ports := some (parts.map fun part => part.tail.headD "") }

/-- The character may stand in the name of a host. -/
def isHostChar (c : Char) : Bool :=
  c.isAlphanum || c = '-' || c = '.'

/-- A host and the port behind it, if both are such; a line break at the end aside. -/
def withPort? (s : String) : Option (String × String) :=
  match splitFirst? ':' s.toList with
  | none => none
  | some (host, behind) =>
    let port := if behind.getLast? = some '\n' then behind.dropLast else behind
    if host.all isHostChar && port.all fun c => (decimalDigit? c).isSome then
      some (String.ofList host, String.ofList port)
    else none

/-- The hosts that a query names. -/
def ofUrl (url : DatabaseUrl) : Except EngineFault HostList :=
  match url.queryValues "host" with
  | [] => .ok {}
  | [s] =>
    let hosts := (fields ',' s.toList).map String.ofList
    match hosts, withPort? s, url.queryValues "port" with
    | [_], some (host, port), [] => .ok { hosts := [host], ports := some [port] }
    | _, _, _ => .ok { hosts }
  | several => ofSeveral several

end HostList

namespace DatabaseUrl

/-- The texts of the ports: those behind the hosts, or those that stand by themselves. -/
def portTexts (url : DatabaseUrl) (list : HostList) : Except EngineFault (List String) :=
  match list.ports, url.queryValues "port" with
  | some _, _ :: _ => .error (.hosts .portsTwice)
  | some ports, [] => .ok ports
  | none, [s] => .ok ((Text.fields ',' s.toList).map String.ofList)
  | none, ports => .ok ports

/-- A port, which may be left out. -/
def hostPort (s : String) : Except EngineFault (Option Int) :=
  if s = "" then .ok none
  else
    match Text.readInteger? s with
    | some n => .ok (some n)
    | none => .error (.hosts .malformedPort)

/-- Where there are several hosts or several ports, there are as many of the ones as of the
others, unless there are no ports. -/
def areUneven (hosts : List String) (ports : List (Option Int)) : Bool :=
  !ports.isEmpty && hosts.length ≠ ports.length && (1 < hosts.length || 1 < ports.length)

/-- Of several hosts one has no name or no port. -/
def areIncomplete (hosts : List String) (ports : List (Option Int)) : Bool :=
  1 < hosts.length &&
    (hosts.contains "" || ports.isEmpty || ports.any fun port => port.getD 0 = 0)

/-- The hosts and the ports of an address fit together. -/
def checkHosts (url : DatabaseUrl) : Except EngineFault Unit := do
  let list ← HostList.ofUrl url
  let ports ← (← url.portTexts list).mapM hostPort
  if areUneven list.hosts ports then .error (.hosts .uneven)
  else if areIncomplete list.hosts ports then .error (.hosts .incomplete)
  else return

end DatabaseUrl

end Disposition
