import FrameLink.Proofs.Transport.Confined

/-
  The clients of a listener in memory.

  Clients connect through the connector of a listener and use
  their endpoints, in any order.  Each connection has a pair
  of pipes to itself, and its far end waits in the queue of
  the listener until somebody takes it.  Somebody may take
  connections from the queue, and read from their pipes.

  What is kept is that the queue holds the connections not
  taken yet in the order in which they were made, and that
  what a client has written is what was read of it and what
  is still in its pipe (`Guests.Kept`).

  Key definitions include:
    * `Client`, `Client.far`
    * `Guests`, `Guests.Action`, `Guests.act`, `Guests.run`
    * `Guests.Kept`
-/

------------------------------------------------------------
-- Clients
------------------------------------------------------------

namespace FrameLink

/- The bytes that an operation is reported to have written. -/
def Endpoint.Operation.taken
    (operation : Operation)
    (result : Endpoint.Result) : Bytes :=
  match operation, result with
  | .send bs, .sent answer => (Exchange.sent bs answer).taken
  | _, _ => []

/- A client that has connected, and what it has written. -/
structure Client where
  endpoint : Endpoint
  written : Bytes := []

/- The two pipes with their ends exchanged. -/
def Role.opposite : Role → Role
  | .stream inbound outbound => .stream outbound inbound
  | .listener queue listening => .listener queue listening

/- The far end of a client, as it waits to be taken. -/
def Client.far
    (client : Client)
    (connector : Connector) : Endpoint where
  role := client.endpoint.role.opposite
  address := connector.address
  peer := some client.endpoint.address

/- How a client waits in the queue of a listener. -/
def Client.caller
    (client : Client)
    (connector : Connector) : Endpoint × Address :=
  (client.far connector, client.endpoint.address)

/- The clients in the order in which they have connected. -/
structure Guests where
  connector : Connector
  clients : List Client := []
  net : Network

namespace Guests

/- How all that have connected wait or have waited. -/
def callers (g : Guests) : List (Endpoint × Address) :=
  g.clients.map (·.caller g.connector)

/- Something that a client does. -/
inductive Action where
  /- Somebody connects from an address. -/
  | connect (address : Address)
  /- A client uses its endpoint. -/
  | use (i : Nat) (operation : Endpoint.Operation)
  deriving DecidableEq

/- Do one thing.  A client that does not exist does nothing. -/
def act (g : Guests) (action : Action) : Guests :=
  match action with
  | .connect address =>
      let (endpoint, net) := g.connector.connect address g.net
      { g with clients := g.clients ++ [{ endpoint }], net }
  | .use i operation =>
      match g.clients[i]? with
      | none => g
      | some client =>
          let effect :=
            client.endpoint.perform operation g.net
          let client : Client :=
            { endpoint := effect.endpoint
              written :=
                client.written ++
                  operation.taken effect.result }
          { g with
            clients := g.clients.set i client
            net := effect.network }

/- Do one thing after the other. -/
def run (g : Guests) (actions : List Action) : Guests :=
  actions.foldl act g

end Guests

------------------------------------------------------------
-- Lists, Pipes and Queues
------------------------------------------------------------

/- What is in a list with one more is in it or the last. -/
theorem getElem?_concat_cases
    {α : Type}
    {as : List α}
    {a b : α}
    {i : Nat}
    (hThere : (as ++ [a])[i]? = some b) :
    as[i]? = some b ∨ i = as.length ∧ b = a := by
  rw [List.getElem?_append] at hThere
  split at hThere
  · exact .inl hThere
  · rename_i hBehind
    rcases List.getElem?_eq_some_iff.mp hThere with
      ⟨hLess, hThis⟩
    rw [List.length_singleton] at hLess
    rw [List.getElem_singleton] at hThis
    exact .inr ⟨by omega, hThis.symm⟩

/- What is in a changed list was in it or is the change. -/
theorem getElem?_set_cases
    {α : Type}
    {as : List α}
    {a b : α}
    {i j : Nat}
    (hThere : (as.set i a)[j]? = some b) :
    i ≠ j ∧ as[j]? = some b ∨ i = j ∧ b = a := by
  rw [List.getElem?_set] at hThere
  split at hThere
  · rename_i hSame
    split at hThere
    · exact .inr ⟨hSame, (Option.some.inj hThere).symm⟩
    · cases hThere
  · rename_i hOther
    exact .inl ⟨hOther, hThere⟩

theorem set_of_getElem?
    {α : Type}
    {as : List α}
    {a : α}
    {i : Nat}
    (hThere : as[i]? = some a) :
    as.set i a = as := by
  rcases List.getElem?_eq_some_iff.mp hThere with
    ⟨hLess, rfl⟩
  exact List.set_getElem_self hLess

namespace Network

/- A new pipe is empty, as one that is not there reads. -/
theorem pipe_push
    (net : Network)
    (i : Nat) :
    Network.pipe { net with pipes := net.pipes.push {} } i =
      net.pipe i := by
  simp only [pipe, Array.getD_eq_getD_getElem?,
    Array.getElem?_push]
  split
  · rename_i hLast
    subst hLast
    simp
  · rfl

theorem queue_changeQueue_same
    {net : Network}
    {i : Nat}
    (hQueue : i < net.queues.size)
    (f : List (Endpoint × Address) →
      List (Endpoint × Address)) :
    (net.changeQueue i f).queue i = f (net.queue i) := by
  simp [queue, changeQueue, hQueue, Array.getElem_modify]

end Network

/- An operation writes to the outgoing pipe alone. -/
theorem Endpoint.perform_moves
    {e : Endpoint}
    {inbound outbound : Nat}
    (hRole : e.role = .stream inbound outbound)
    (hOther : inbound ≠ outbound)
    {net : Network}
    (hPipe : outbound < net.pipes.size)
    (operation : Operation) :
    Moves outbound
      (operation.taken (e.perform operation net).result) []
      (e, net)
      ((e.perform operation net).endpoint,
        (e.perform operation net).network) := by
  cases operation with
  | send bs => exact send_moves hRole hPipe bs
  | receive room =>
      exact receive_moves_of_ne hRole hOther room net
  | _ =>
      refine perform_moves_of_isStill hRole ?_
      exact trivial

namespace Guests

/-
  The connections waiting are those made last, and what was
  read of those taken so far is a given list.  The pipes of
  the clients are numbered from a base, two for each client.
-/
structure Kept
    (base : Nat)
    (read : List Bytes)
    (g : Guests) : Prop where
  queue : g.connector.queue < g.net.queues.size
  pipes : g.net.pipes.size = base + 2 * g.clients.length
  role :
    ∀ (i : Nat) (client : Client),
      g.clients[i]? = some client →
        client.endpoint.role =
          .stream (base + 2 * i + 1) (base + 2 * i)
  taken : read.length ≤ g.clients.length
  waiting :
    g.net.queue g.connector.queue =
      g.callers.drop read.length
  written :
    ∀ (i : Nat) (client : Client),
      g.clients[i]? = some client →
        client.written =
          read.getD i [] ++ (g.net.pipe (base + 2 * i)).bytes

variable {base : Nat} {read : List Bytes} {g : Guests}

------------------------------------------------------------
-- What Clients Do
------------------------------------------------------------

/- The connector stays. -/
theorem connector_act
    (g : Guests)
    (action : Action) :
    (g.act action).connector = g.connector := by
  cases action with
  | connect address => rfl
  | use i operation =>
      simp only [act]
      split
      · rfl
      · rfl

/- The connector stays. -/
theorem connector_run
    (g : Guests)
    (actions : List Action) :
    (g.run actions).connector = g.connector := by
  unfold run
  apply List.foldlRecOn actions act
    (motive := fun h : Guests => h.connector = g.connector)
  · rfl
  · intro h hSame action hMember
    exact (connector_act h action).trans hSame

theorem callers_connect
    (g : Guests)
    (address : Address) :
    (g.act (.connect address)).callers =
      g.callers ++
        [Client.caller
          { endpoint :=
              (g.connector.connect address g.net).1 }
          g.connector] :=
  List.map_append

/- Who connects has written nothing and waits last. -/
theorem Kept.connect
    (hKept : Kept base read g)
    (address : Address) :
    Kept base read (g.act (.connect address)) := by
  rcases hKept with
    ⟨hQueue, hPipes, hRole, hTaken, hWaiting, hWritten⟩
  have hPipe :
      ∀ i,
        (g.act (.connect address)).net.pipe i =
          g.net.pipe i := by
    intro i
    refine Eq.trans ?_ (Network.pipe_push g.net i)
    exact
      Network.pipe_push
        { g.net with pipes := g.net.pipes.push {} } i
  have hLast :
      ∀ (i : Nat) (client : Client),
        (g.act (.connect address)).clients[i]? =
            some client →
          g.clients[i]? = some client ∨
            i = g.clients.length ∧
              client =
                { endpoint :=
                    (g.connector.connect address
                      g.net).1 } :=
    fun i client => getElem?_concat_cases
  constructor
  · change
      g.connector.queue <
        (g.net.queues.modify g.connector.queue _).size
    rw [Array.size_modify]
    exact hQueue
  · change
      ((g.net.pipes.push {}).push {}).size =
        base + 2 * (g.clients ++ [_]).length
    rw [Array.size_push, Array.size_push,
      List.length_append, List.length_singleton]
    omega
  · intro i client hClient
    rcases hLast i client hClient with hBefore | ⟨rfl, rfl⟩
    · exact hRole i client hBefore
    · rw [← hPipes]
      rfl
  · change read.length ≤ (g.clients ++ [_]).length
    rw [List.length_append]
    omega
  · have hCallers : read.length ≤ g.callers.length := by
      rw [callers, List.length_map]
      exact hTaken
    refine
      (Network.queue_changeQueue_same hQueue _).trans ?_
    rw [callers_connect,
      List.drop_append_of_le_length hCallers, hWaiting]
    rfl
  · intro i client hClient
    rw [hPipe]
    rcases hLast i client hClient with hBefore | ⟨rfl, rfl⟩
    · exact hWritten i client hBefore
    · have hNew :
          g.net.pipe (base + 2 * g.clients.length) = {} := by
        rw [← hPipes, Network.pipe,
          Array.getD_eq_getD_getElem?,
          Array.getElem?_eq_none (Nat.le_refl _)]
        rfl
      rw [hNew, List.getD_eq_getElem?_getD,
        List.getElem?_eq_none hTaken]
      rfl

/- A client waits as who it is, whatever it does. -/
theorem caller_confined
    {inbound outbound : Nat}
    {client client' : Client}
    {net net' : Network}
    (hConfined :
      Endpoint.Confined inbound outbound
        (client.endpoint, net) (client'.endpoint, net'))
    (connector : Connector) :
    client'.caller connector = client.caller connector := by
  have hRole : client'.endpoint.role = _ := hConfined.role
  have hAddress : client'.endpoint.address = _ :=
    hConfined.address
  simp only [Client.caller, Client.far, hRole, hAddress]

/- What a client does leaves it who it is. -/
theorem Kept.callers_use
    (hKept : Kept base read g)
    (i : Nat)
    (operation : Endpoint.Operation) :
    (g.act (.use i operation)).callers = g.callers := by
  cases hClient : g.clients[i]? with
  | none => simp only [act, hClient]
  | some client =>
      have hConfined :=
        Endpoint.perform_confined
          (hKept.role i client hClient) operation g.net
      simp only [act, hClient, callers]
      rw [List.map_set]
      apply set_of_getElem?
      rw [List.getElem?_map, hClient]
      exact
        congrArg some
          (caller_confined hConfined g.connector).symm

/- A client writes to its own pipe. -/
theorem Kept.use
    (hKept : Kept base read g)
    (i : Nat)
    (operation : Endpoint.Operation) :
    Kept base read (g.act (.use i operation)) := by
  have hCallers := hKept.callers_use i operation
  cases hClient : g.clients[i]? with
  | none =>
      simp only [act, hClient]
      exact hKept
  | some client =>
      rcases hKept with
        ⟨hQueue, hPipes, hRole, hTaken, hWaiting, hWritten⟩
      rcases List.getElem?_eq_some_iff.mp hClient with
        ⟨hLess, _⟩
      have hOwn := hRole i client hClient
      have hConfined :=
        Endpoint.perform_confined hOwn operation g.net
      have hPipe : base + 2 * i < g.net.pipes.size := by
        omega
      have hMoves :=
        Endpoint.perform_moves hOwn (by omega) hPipe
          operation
      simp only [act, hClient] at hCallers ⊢
      generalize
        client.endpoint.perform operation g.net = effect
        at hConfined hMoves hCallers ⊢
      constructor
      · exact
          Nat.lt_of_lt_of_eq hQueue
            (congrArg Array.size hConfined.queues.symm)
      · rw [List.length_set]
        exact hConfined.size.trans hPipes
      · intro j other hOther
        rcases getElem?_set_cases hOther with
          ⟨_, hBefore⟩ | ⟨rfl, rfl⟩
        · exact hRole j other hBefore
        · exact hConfined.role.trans hOwn
      · rw [List.length_set]
        exact hTaken
      · rw [hCallers, ← hWaiting]
        exact
          congrArg (·.getD g.connector.queue [])
            hConfined.queues
      · intro j other hOther
        rcases getElem?_set_cases hOther with
          ⟨hNe, hBefore⟩ | ⟨rfl, rfl⟩
        · have hElse :
              effect.network.pipe (base + 2 * j) =
                g.net.pipe (base + 2 * j) :=
            hConfined.pipe _ (by omega) (by omega)
          rw [hWritten j other hBefore]
          dsimp only
          rw [hElse]
        · have hBytes := hMoves.bytes
          rw [List.nil_append] at hBytes
          change client.written ++ _ = _
          rw [hWritten i client hClient, List.append_assoc]
          exact congrArg (_ ++ ·) hBytes

theorem Kept.act
    (hKept : Kept base read g)
    (action : Action) :
    Kept base read (g.act action) := by
  cases action with
  | connect address => exact hKept.connect address
  | use i operation => exact hKept.use i operation

theorem Kept.run
    (hKept : Kept base read g)
    (actions : List Action) :
    Kept base read (g.run actions) := by
  unfold Guests.run
  apply List.foldlRecOn actions Guests.act hKept
  intro g hKept action hMember
  exact hKept.act action

/- Clients stay who they are, and others come behind. -/
theorem Kept.callers_act
    (hKept : Kept base read g)
    (action : Action) :
    g.callers <+: (g.act action).callers := by
  cases action with
  | connect address =>
      rw [callers_connect]
      exact List.prefix_append _ _
  | use i operation =>
      refine ⟨[], ?_⟩
      rw [List.append_nil, hKept.callers_use i operation]

------------------------------------------------------------
-- What Others Do
------------------------------------------------------------

/- Who has waited longest is taken and nothing read of it. -/
theorem Kept.take
    (hKept : Kept base read g)
    {caller : Endpoint × Address}
    {rest : List (Endpoint × Address)}
    (hQueue :
      g.net.queue g.connector.queue = caller :: rest) :
    g.callers[read.length]? = some caller ∧
      Kept base (read ++ [[]])
        { g with
          net :=
            g.net.changeQueue g.connector.queue
              List.tail } := by
  have hDropped := hKept.waiting
  rw [hQueue] at hDropped
  have hHead : g.callers[read.length]? = some caller := by
    have hFirst := congrArg (·[0]?) hDropped
    simp only [List.getElem?_drop, Nat.add_zero] at hFirst
    exact hFirst.symm
  rcases List.getElem?_eq_some_iff.mp hHead with ⟨hLess, _⟩
  rw [callers, List.length_map] at hLess
  refine ⟨hHead, ?_⟩
  constructor
  · refine Nat.lt_of_lt_of_eq hKept.queue ?_
    exact Array.size_modify.symm
  · exact hKept.pipes
  · exact hKept.role
  · rw [List.length_append]
    exact hLess
  · refine
      (Network.queue_changeQueue_same hKept.queue _).trans ?_
    rw [hKept.waiting, List.tail_drop, List.length_append]
    rfl
  · intro i client hClient
    have hRead : (read ++ [[]]).getD i [] = read.getD i [] := by
      simp only [List.getD_eq_getElem?_getD,
        List.getElem?_append]
      split
      · rfl
      · rename_i hBehind
        have hNone : read[i]? = none :=
          List.getElem?_eq_none (by omega)
        rw [hNone]
        cases i - read.length with
        | zero => rfl
        | succ n => rfl
    rw [hRead]
    exact hKept.written i client hClient

/-
  What is done at the far end of one client moves that
  client's bytes alone.
-/
theorem Kept.confined
    (hKept : Kept base read g)
    {k : Nat}
    (hTaken : k < read.length)
    {client : Client}
    (hClient : g.clients[k]? = some client)
    {e e' : Endpoint}
    {net : Network}
    (hConfined :
      Endpoint.Confined (base + 2 * k) (base + 2 * k + 1)
        (e, g.net) (e', net))
    {bs : Bytes}
    (hBytes :
      client.written =
        bs ++ (net.pipe (base + 2 * k)).bytes) :
    Kept base (read.set k bs) { g with net } := by
  constructor
  · exact
      Nat.lt_of_lt_of_eq hKept.queue
        (congrArg Array.size hConfined.queues.symm)
  · exact hConfined.size.trans hKept.pipes
  · exact hKept.role
  · rw [List.length_set]
    exact hKept.taken
  · rw [List.length_set]
    refine Eq.trans ?_ hKept.waiting
    exact
      congrArg (·.getD g.connector.queue [])
        hConfined.queues
  · intro i other hOther
    by_cases hSame : k = i
    · subst hSame
      cases hClient.symm.trans hOther
      rw [List.getD_eq_getElem?_getD,
        List.getElem?_set_self hTaken]
      exact hBytes
    · have hElse :
          net.pipe (base + 2 * i) =
            g.net.pipe (base + 2 * i) :=
        hConfined.pipe _ (by omega) (by omega)
      rw [List.getD_eq_getElem?_getD,
        List.getElem?_set_ne hSame,
        ← List.getD_eq_getElem?_getD]
      refine (hKept.written i other hOther).trans ?_
      exact congrArg (_ ++ ·.bytes) hElse.symm

end Guests

end FrameLink
