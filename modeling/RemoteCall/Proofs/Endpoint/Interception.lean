import RemoteCall.Proofs.Endpoint.ChainHistory
import RemoteCall.Proofs.Endpoint.Dispatch

/-!
# How interceptors take turns

A request meets the interceptors that the chain holds when its turn begins, whatever is registered
or taken out in the meantime, by the interceptors or by others.  Each is given the request that the
one before left, and the first that answers or fails is the last to run.
-/

namespace RemoteCall
namespace Endpoint

open Chain

variable {α : Type} {behaviour : Behaviour α}

/-- Interceptors let a request pass in turn, each the request that the one before left. -/
inductive Passes (behaviour : Behaviour α) :
    List (InterceptorId × α) → Request → Chain α → List Event → Request → Chain α → Prop where
  | nil (request : Request) (chain : Chain α) : Passes behaviour [] request chain [] request chain
  | cons {id : InterceptorId} {interceptor : α} {request next : Request} {chain changed : Chain α}
      (proceeds : behaviour id interceptor request chain = (.ok (.proceed next), changed))
      {later : List (InterceptorId × α)} {events : List Event} {last : Request} {final : Chain α}
      (rest : Passes behaviour later next changed events last final) :
      Passes behaviour ((id, interceptor) :: later) request chain
        (.intercepted id request :: events) last final

/-- The turns of interceptors at a request: all let it pass, or one of them ends them. -/
inductive Turns (behaviour : Behaviour α) (entries : List (InterceptorId × α)) (request : Request)
    (chain : Chain α) : Intercepted α → Prop where
  | passed {events : List Event} {last : Request} {final : Chain α}
      (passes : Passes behaviour entries request chain events last final) :
      Turns behaviour entries request chain ⟨.proceed last, events, final⟩
  | answered {earlier later : List (InterceptorId × α)} {id : InterceptorId} {interceptor : α}
      (parts : entries = earlier ++ (id, interceptor) :: later) {events : List Event}
      {given : Request} {changed final : Chain α}
      (passes : Passes behaviour earlier request chain events given changed) {response : Response}
      (answers : behaviour id interceptor given changed = (.ok (.respond response), final)) :
      Turns behaviour entries request chain
        ⟨.respond response, events ++ [.intercepted id given], final⟩
  | failed {earlier later : List (InterceptorId × α)} {id : InterceptorId} {interceptor : α}
      (parts : entries = earlier ++ (id, interceptor) :: later) {events : List Event}
      {given : Request} {changed final : Chain α}
      (passes : Passes behaviour earlier request chain events given changed) {failure : Failure}
      (fails : behaviour id interceptor given changed = (.error failure, final)) :
      Turns behaviour entries request chain
        ⟨.respond (Response.throwable (.ofFailure failure) (interceptorCertainty failure)),
          events ++ [.intercepted id given], final⟩

theorem Turns.cons {id : InterceptorId} {interceptor : α} {request next : Request}
    {chain changed : Chain α}
    (proceeds : behaviour id interceptor request chain = (.ok (.proceed next), changed))
    {later : List (InterceptorId × α)} {rest : Intercepted α}
    (turns : Turns behaviour later next changed rest) :
    Turns behaviour ((id, interceptor) :: later) request chain
      ⟨rest.result, .intercepted id request :: rest.events, rest.chain⟩ := by
  cases turns with
  | passed passes => exact .passed (.cons proceeds passes)
  | answered parts passes answers =>
      exact .answered (by rw [parts, List.cons_append]) (.cons proceeds passes) answers
  | failed parts passes fails =>
      exact .failed (by rw [parts, List.cons_append]) (.cons proceeds passes) fails

theorem turns_intercept (behaviour : Behaviour α) (entries : List (InterceptorId × α))
    (request : Request) (chain : Chain α) :
    Turns behaviour entries request chain (intercept behaviour entries request chain) := by
  induction entries generalizing request chain with
  | nil => exact .passed (.nil request chain)
  | cons entry later ih =>
      obtain ⟨id, interceptor⟩ := entry
      unfold intercept
      split
      · next next changed proceeds => exact (ih next changed).cons proceeds
      · next response changed answers =>
          exact .answered (List.nil_append _).symm (.nil request chain) answers
      · next failure changed fails =>
          exact .failed (List.nil_append _).symm (.nil request chain) fails

section Traces

@[simp]
theorem trace_append (first second : List Event) :
    trace (first ++ second) = trace first ++ trace second :=
  List.filterMap_append

theorem trace_serveIntercepted (server : Server α) (request : Request) :
    trace (serveIntercepted server request).events = [] := by
  have resolves := resolves server.codec server.registry request
  have resolved : trace (resolve server.codec server.registry request).events = [] := by
    generalize (resolve server.codec server.registry request).result = result at resolves
    generalize (resolve server.codec server.registry request).events = events at resolves ⊢
    cases resolves with
    | rejected | unmade | undispatched | dispatched => rfl
  unfold serveIntercepted
  dsimp only
  split
  · exact resolved
  · exact resolved
  · rw [trace_append, resolved]
    rfl

/-- All interceptors that let a request pass have run, in their order. -/
theorem Passes.trace_eq {entries : List (InterceptorId × α)} {request last : Request}
    {chain final : Chain α} {events : List Event}
    (passes : Passes behaviour entries request chain events last final) :
    trace events = entries.map Prod.fst := by
  induction passes with
  | nil => rfl
  | @cons id _ _ _ _ _ _ later events _ _ _ ih =>
      change id :: trace events = id :: later.map Prod.fst
      rw [ih]

theorem Turns.trace_isPrefix {entries : List (InterceptorId × α)} {request : Request}
    {chain : Chain α} {intercepted : Intercepted α}
    (turns : Turns behaviour entries request chain intercepted) :
    trace intercepted.events <+: entries.map Prod.fst := by
  cases turns with
  | passed passes => exact ⟨[], by rw [List.append_nil, passes.trace_eq]⟩
  | answered parts passes | failed parts passes =>
      rw [trace_append, passes.trace_eq, parts, List.map_append, List.map_cons]
      exact (List.prefix_append_right_inj _).mpr ⟨_, rfl⟩

end Traces

/-- A request gets past the checks that come before the interceptors. -/
structure Admitted (server : Server α) (request : Request) : Prop where
  unchecked : isHealthCheck server.healthRoute request = false
  posted : request.method = "POST"

/-- What becomes of an admitted request once its interceptors have run. -/
def Server.afterInterceptors (server : Server α) (intercepted : Intercepted α) : Served α :=
  let server := { server with chain := intercepted.chain }
  match intercepted.result with
  | .respond response => ⟨response, 0, intercepted.events, server⟩
  | .proceed request =>
      let served := serveIntercepted server request
      { served with events := intercepted.events ++ served.events }

theorem serve_of_admitted {server : Server α} {request : Request}
    (admitted : Admitted server request) :
    serve behaviour server request =
      server.afterInterceptors
        (intercept behaviour server.chain.entries request server.chain) := by
  rw [serve, admitted.unchecked, if_neg Bool.false_ne_true,
    if_neg (not_not_intro admitted.posted)]
  rfl

theorem serveIntercepted_chain (server : Server α) (request : Request) :
    (serveIntercepted server request).server.chain = server.chain := by
  unfold serveIntercepted
  dsimp only
  split <;> rfl

theorem trace_afterInterceptors (server : Server α) (intercepted : Intercepted α) :
    trace (server.afterInterceptors intercepted).events = trace intercepted.events := by
  unfold Server.afterInterceptors
  dsimp only
  split
  · rfl
  · rw [trace_append, trace_serveIntercepted, List.append_nil]

theorem chain_afterInterceptors (server : Server α) (intercepted : Intercepted α) :
    (server.afterInterceptors intercepted).server.chain = intercepted.chain := by
  unfold Server.afterInterceptors
  dsimp only
  split
  · rfl
  · exact serveIntercepted_chain _ _

/-- What does not get past the checks meets no interceptor. -/
theorem serve_of_not_admitted {server : Server α} {request : Request}
    (refused : ¬Admitted server request) :
    (serve behaviour server request).events = [] ∧
      (serve behaviour server request).server = server := by
  unfold serve
  split
  · exact ⟨rfl, rfl⟩
  · next unchecked =>
      have unposted : request.method ≠ "POST" := by
        intro posted
        exact refused ⟨Bool.eq_false_iff.mpr unchecked, posted⟩
      rw [if_pos unposted]
      exact ⟨rfl, rfl⟩

/-- All that happens to the chain while an interceptor runs are operations on it. -/
def Operates (behaviour : Behaviour α) : Prop :=
  ∀ (id : InterceptorId) (interceptor : α) (request : Request) {records : List (Record α)}
    {chain : Chain α}, History records chain →
      ∃ later, History (records ++ later) (behaviour id interceptor request chain).2

theorem Operates.history_intercept (operates : Operates behaviour)
    (entries : List (InterceptorId × α)) (request : Request) {records : List (Record α)}
    {chain : Chain α} (history : History records chain) :
    ∃ later, History (records ++ later) (intercept behaviour entries request chain).chain := by
  induction entries generalizing request records chain with
  | nil =>
      refine ⟨[], ?_⟩
      rw [List.append_nil]
      exact history
  | cons entry rest ih =>
      obtain ⟨id, interceptor⟩ := entry
      obtain ⟨later, changed⟩ := operates id interceptor request history
      unfold intercept
      split
      · next next final proceeds =>
          rw [proceeds] at changed
          obtain ⟨more, final⟩ := ih next changed
          rw [List.append_assoc] at final
          exact ⟨later ++ more, final⟩
      · next response final answers =>
          rw [answers] at changed
          exact ⟨later, changed⟩
      · next failure final fails =>
          rw [fails] at changed
          exact ⟨later, changed⟩

/-- What serving a request does to the chain are operations on it. -/
theorem Operates.history_serve (operates : Operates behaviour) {server : Server α}
    (request : Request) {records : List (Record α)} (history : History records server.chain) :
    ∃ later, History (records ++ later) (serve behaviour server request).server.chain := by
  by_cases admitted : Admitted server request
  · rw [serve_of_admitted admitted, chain_afterInterceptors]
    exact operates.history_intercept server.chain.entries request history
  · rw [(serve_of_not_admitted admitted).2]
    refine ⟨[], ?_⟩
    rw [List.append_nil]
    exact history

theorem trace_serve_isPrefix (behaviour : Behaviour α) (server : Server α) (request : Request) :
    trace (serve behaviour server request).events <+: server.chain.entries.map Prod.fst := by
  by_cases admitted : Admitted server request
  · rw [serve_of_admitted admitted, trace_afterInterceptors]
    exact (turns_intercept behaviour server.chain.entries request server.chain).trace_isPrefix
  · rw [(serve_of_not_admitted admitted).1]
    exact List.nil_prefix

/-- While the interceptors of a request run, any may be registered and taken out.  All the same
those that run are the first of those registered when the turns began, each once and in order, each
given the request that the one before left, until one ends the turns.  Before and after, the chain
is what its history says: numbers are not given out twice, taking out succeeds exactly for what is
registered and not yet taken out, and that is what the next request meets. -/
theorem turns_under_change (operates : Operates behaviour) {server : Server α}
    {records : List (Record α)} (history : History records server.chain)
    (few : (registered records).length < UInt64.size) (request : Request) :
    let chain := server.chain
    let intercepted := intercept behaviour chain.entries request chain
    let served := serve behaviour server request
    ((Admitted server request →
          Turns behaviour chain.entries request chain intercepted ∧
            served = server.afterInterceptors intercepted) ∧
        trace served.events <+: chain.entries.map Prod.fst ∧ (trace served.events).Nodup) ∧
      (((registered records).map Prod.fst).Nodup ∧
        (∀ id, (chain.unregister id).1 = true ↔
          id ∈ (registered records).map Prod.fst ∧ id ∉ removed records) ∧
        chain.entries = (registered records).filter fun entry => entry.1 ∉ removed records) ∧
      ∃ later, History (records ++ later) served.server.chain := by
  intro chain intercepted served
  have accords : Accords records chain := history.accords few
  have ran : trace served.events <+: chain.entries.map Prod.fst :=
    trace_serve_isPrefix behaviour server request
  refine ⟨⟨?_, ran, accords.nodup_entries.sublist ran.sublist⟩,
    ⟨accords.nodup, accords.unregister_iff, accords.entries⟩,
    operates.history_serve request history⟩
  intro admitted
  exact ⟨turns_intercept behaviour chain.entries request chain, serve_of_admitted admitted⟩

/-- Two interceptors that take themselves out and register another one in their place. -/
theorem turns_under_change_replacing :
    let behaviour : Behaviour Unit := fun id _ request chain =>
      (.ok (.proceed request), ((chain.unregister id).2.register ()).2)
    let chain : Chain Unit := ((Chain.empty.register ()).2.register ()).2
    let server : Server Unit := ⟨.json, .empty, none, chain⟩
    let request : Request := ⟨"POST", ⟨none, none, "/", none⟩, .empty, []⟩
    let served := serve behaviour server request
    Operates behaviour ∧ trace served.events = [⟨1⟩, ⟨2⟩] ∧ (trace served.events).Nodup ∧
      served.server.chain.entries = [(⟨3⟩, ()), (⟨4⟩, ())] := by
  intro behaviour chain server request served
  have operates : Operates behaviour := by
    intro id interceptor request records chain history
    have both := (history.unregister id).register ()
    rw [List.append_assoc] at both
    exact ⟨_, both⟩
  have history : History [.registered ⟨1⟩ (), .registered ⟨2⟩ ()] server.chain :=
    (History.empty.register ()).register ()
  have turns := turns_under_change operates history (by decide) request
  exact ⟨operates, rfl, turns.1.2.2, rfl⟩

end Endpoint
end RemoteCall
