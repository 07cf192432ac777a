import RemoteCall.Net.Address

/-!
# Finding addresses of hosts

A host name has addresses of either family.  Calls enter through the first address of the shorter
family.  A name that is an address itself needs no lookup.
-/

namespace RemoteCall
namespace Net

/-- What kinds of address a lookup asks for (`DnsRecordType`). -/
inductive RecordKind where
  | a
  | aaaa
  /-- Addresses of either family. -/
  | any
  deriving DecidableEq, Repr

def RecordKind.name : RecordKind → String
  | .a => "A"
  | .aaaa => "AAAA"
  | .any => "any"

/-- Why a host has no address to offer (`DnsError`). -/
inductive LookupFault where
  /-- The lookup failed, with its own explanation. -/
  | failed (host explanation : String)
  /-- The lookup found no address of the family asked for. -/
  | noRecord (host : String)
  deriving DecidableEq, Repr

def LookupFault.message : LookupFault → String
  | .failed host explanation => "failed to resolve '" ++ host ++ "': " ++ explanation
  | .noRecord host => "Failed to get ip from hostname '" ++ host ++ "'"

/-- The first address of the shorter family (in `DnsResolver::get_first_a_record`). -/
def firstIpv4? : List Address → Option Ipv4
  | [] => none
  | .v4 address :: _ => some address
  | .v6 _ :: later => firstIpv4? later

/-- The address to use for a host, given what its lookup found (`DnsResolver::get_first_a_record`).
-/
def chooseIpv4 (host : String) : Except LookupFault (List Address) → Except LookupFault Ipv4
  | .error fault => .error fault
  | .ok addresses =>
      match firstIpv4? addresses with
      | some address => .ok address
      | none => .error (.noRecord host)

/-- The addresses of a name that is an address itself, of whichever family (in
`HickoryDnsResolver::resolve`). -/
def literalAddresses? (name : String) : Option (List Address) :=
  (Address.ofText? name).map fun address => [address]

structure ResolverOptions where
  /-- The bound on one query, in milliseconds. -/
  timeout : Nat
  attempts : Nat
  cacheSize : Nat
  /-- How many dots make a name absolute. -/
  dots : Nat
  deriving DecidableEq, Repr

/-- Options that a client sets, whatever the system's are (`DnsConfig`). -/
structure ResolverOverrides where
  timeout : Nat
  attempts : Nat
  cacheSize : Nat
  deriving DecidableEq, Repr

namespace ResolverOverrides

/-- A tenth of a second, two attempts, five thousand remembered answers (`DnsConfig::default`). -/
def usual : ResolverOverrides := ⟨100, 2, 5000⟩

/-- The system's options with these put over them (`DnsConfigLoader::apply`). -/
def apply (overrides : ResolverOverrides) (system : ResolverOptions) : ResolverOptions :=
  { system with
    timeout := overrides.timeout
    attempts := overrides.attempts
    cacheSize := overrides.cacheSize }

end ResolverOverrides
end Net
end RemoteCall
