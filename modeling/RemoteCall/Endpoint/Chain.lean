/-!
# Chains of interceptors

A server may let interceptors look at every request before it is served.  They are numbered in
the order of their registration and kept in the order of their numbers.  The counter has 64 bits,
so numbers start again only when all of them have been given out.
-/

namespace RemoteCall

/-- The number of an interceptor (`InterceptorId`). -/
structure InterceptorId where
  number : Nat
  deriving DecidableEq, Repr

/-- The name of an interceptor (`InterceptorId::fmt`). -/
def InterceptorId.name (id : InterceptorId) : String := "interceptor-" ++ toString id.number

/-- Registered interceptors in the order of their numbers, and the counter for the next (in
`RpcRequestHandler`). -/
structure Chain (α : Type) where
  next : UInt64
  entries : List (InterceptorId × α)
  deriving Repr

namespace Chain

variable {α : Type}

def empty : Chain α := ⟨1, []⟩

/-- How many interceptors there are (`RpcRequestHandler::interceptor_count`). -/
def size (chain : Chain α) : Nat := chain.entries.length

/-- Puts an interceptor in its place by number; it takes the place of one with the same number. -/
def place (id : InterceptorId) (interceptor : α) :
    List (InterceptorId × α) → List (InterceptorId × α)
  | [] => [(id, interceptor)]
  | entry :: later =>
      if id.number < entry.1.number then (id, interceptor) :: entry :: later
      else if id = entry.1 then (id, interceptor) :: later
      else entry :: place id interceptor later

/-- Registers an interceptor under the next number (`RpcRequestHandler::register_interceptor`). -/
def register (chain : Chain α) (interceptor : α) : InterceptorId × Chain α :=
  let id : InterceptorId := ⟨chain.next.toNat⟩
  (id, ⟨chain.next + 1, place id interceptor chain.entries⟩)

def contains (chain : Chain α) (id : InterceptorId) : Bool :=
  chain.entries.any fun entry => entry.1 == id

/-- Takes an interceptor out of the chain and tells whether it was there
(`RpcRequestHandler::unregister_interceptor`). -/
def unregister (chain : Chain α) (id : InterceptorId) : Bool × Chain α :=
  (chain.contains id, { chain with entries := chain.entries.filter fun entry => entry.1 ≠ id })

/-- Changes what is known of an interceptor, as far as it is still registered. -/
def update (chain : Chain α) (id : InterceptorId) (change : α → α) : Chain α :=
  { chain with entries := chain.entries.map fun entry =>
      if entry.1 = id then (entry.1, change entry.2) else entry }

end Chain
end RemoteCall
