/-
  The addresses a machine owns.

  The only evidence about a machine that no configuration file can falsify is the list of its own
  interfaces.  Of these, the four-octet addresses on interfaces that are up and lead outside count;
  a loopback address tells members apart nowhere.
-/
import QuorumRescue.Failure
import QuorumRescue.Network.Ip
import QuorumRescue.Ordered

namespace QuorumRescue.Network

/-- One address on one interface. -/
structure Interface where
  name : String
  up : Bool
  loopback : Bool
  address : Option Ip
deriving Repr

/-- The external address that an entry contributes. -/
def Interface.external (entry : Interface) : Option Ipv4 :=
  if entry.up && !entry.loopback then
    (entry.address.bind Ip.asIpv4).filter fun ip => !ip.isLoopback
  else none

/-- What is said of a machine without any external address. -/
def noAddress : Failure := .notFound "external IPv4 address"

/-- The texts of all external addresses, in order and each once. -/
def externalAddresses (entries : List Interface) : Except Failure (List String) :=
  match Ordered.ofList ((entries.filterMap Interface.external).map fun ip => String.ofList ip.toText) with
  | [] => .error noAddress
  | found => .ok found

end QuorumRescue.Network
