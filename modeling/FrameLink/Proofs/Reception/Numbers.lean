import FrameLink.Proofs.Reception.Arrivals

/-
  The numbers of the sockets at a reception.

  Whoever makes a socket takes the next number, be it for a
  connection that is handed over or elsewhere, and nothing
  else that is done takes one (`Reception.numbered_run`).  So
  until the numbers run out, each is greater than all before
  it (`Reception.Numbered.ascending`).

  Key definitions include:
    * `SocketId.later`
    * `Reception.Numbered`
-/

------------------------------------------------------------
-- Numbers in Order
------------------------------------------------------------

namespace FrameLink

namespace SocketId

/- The number that comes so many numbers later. -/
def later (id : SocketId) (n : Nat) : SocketId :=
  ⟨id.number + UInt64.ofNat n⟩

theorem later_zero (id : SocketId) :
    id.later 0 = id := by
  cases id
  simp [later]

theorem next_later (id : SocketId) (n : Nat) :
    (id.later n).next = id.later (n + 1) := by
  simp only [later, next, UInt64.ofNat_add,
    UInt64.add_assoc]
  rfl

/- Until the numbers run out, later is greater. -/
theorem toNat_later
    {id : SocketId}
    {n : Nat}
    (hFew : id.number.toNat + n < UInt64.size) :
    (id.later n).number.toNat = id.number.toNat + n := by
  simp only [UInt64.size] at hFew
  simp only [later, UInt64.toNat_add, UInt64.toNat_ofNat']
  omega

end SocketId

namespace Reception

/-
  The sockets made so far have the numbers from a first one
  on, in the order of their making, and those handed over are
  among them in the order of their handing over.
-/
structure Numbered
    (first : SocketId)
    (r : Reception) : Prop where
  made : r.made = (List.range r.made.length).map first.later
  next : r.host.nextId = first.later r.made.length
  arrivals :
    (r.listener.arrivals.map Socket.id).Sublist r.made

variable {first : SocketId} {r r' : Reception}

/- Where no socket is made, the numbers stay. -/
theorem Numbered.none
    (hNumbered : Numbered first r)
    (hMade : r'.made = r.made)
    (hNext : r'.host.nextId = r.host.nextId)
    (hArrivals :
      r'.listener.arrivals = r.listener.arrivals) :
    Numbered first r' := by
  constructor
  · rw [hMade]
    exact hNumbered.made
  · rw [hMade, hNext]
    exact hNumbered.next
  · rw [hMade, hArrivals]
    exact hNumbered.arrivals

/- Whoever makes a socket takes the next number. -/
theorem Numbered.one
    (hNumbered : Numbered first r)
    (hMade : r'.made = r.made ++ [r.host.nextId])
    (hNext : r'.host.nextId = r.host.nextId.next)
    (hArrivals :
      (r'.listener.arrivals.map Socket.id).Sublist
        r'.made) :
    Numbered first r' := by
  have hLength : r'.made.length = r.made.length + 1 := by
    rw [hMade, List.length_append, List.length_singleton]
  refine ⟨?_, ?_, hArrivals⟩
  · rw [hLength, List.range_succ, List.map_append,
      ← hNumbered.made, hMade, hNumbered.next]
    rfl
  · rw [hLength, hNext, hNumbered.next, SocketId.next_later]

/- Until the numbers run out, they ascend. -/
theorem Numbered.ascending
    (hNumbered : Numbered first r)
    (hFew :
      first.number.toNat + r.made.length ≤ UInt64.size) :
    r.made.Pairwise (·.number < ·.number) ∧
      ∀ id ∈ r.made, first.number ≤ id.number := by
  have hLater :
      ∀ i < r.made.length,
        (first.later i).number.toNat =
          first.number.toNat + i :=
    fun i hLess => SocketId.toNat_later (by omega)
  constructor
  · rw [hNumbered.made, List.pairwise_map]
    refine List.Pairwise.imp_of_mem ?_
      List.pairwise_lt_range
    intro i j hFirst hSecond hLess
    rw [List.mem_range] at hFirst hSecond
    rw [UInt64.lt_iff_toNat_lt, hLater i hFirst,
      hLater j hSecond]
    omega
  · intro id hMember
    rw [hNumbered.made] at hMember
    rcases List.mem_map.mp hMember with ⟨i, hLess, rfl⟩
    rw [List.mem_range] at hLess
    rw [UInt64.le_iff_toNat_le, hLater i hLess]
    exact Nat.le_add_right _ _

------------------------------------------------------------
-- Numbers of a Run
------------------------------------------------------------

/- One thing done takes a number for each socket made. -/
theorem Numbered.act
    (hNumbered : Numbered first r)
    {o : Opening}
    {read : List Bytes}
    (hAttended : Attended o read r)
    (action : Action) :
    Numbered first (r.act action) := by
  cases action with
  | guest action => exact hNumbered.none rfl rfl rfl
  | failAccept kind => exact hNumbered.none rfl rfl rfl
  | make =>
      refine hNumbered.one rfl rfl ?_
      exact hNumbered.arrivals.trans
        (List.sublist_append_left _ _)
  | connection k operation =>
      cases hThere : r.connections[k]? with
      | none =>
          simp only [Reception.act, hThere]
          exact hNumbered
      | some c =>
          rcases hAttended.serves k c hThere with
            ⟨caller, _, origin, moments, hServes⟩
          have hNextId :=
            Socket.perform_nextId c.socket
              (fun _ : operation = .notify .readable =>
                hServes.reads)
              r.host
          simp only [Reception.act, hThere]
          exact hNumbered.none rfl hNextId rfl
  | listener operation =>
      cases welcomes_listener hAttended.listener
          hAttended.role operation with
      | nobody _ _ hUndisturbed =>
          exact
            hNumbered.none hUndisturbed.made
              (congrArg Host.nextId hUndisturbed.host)
              hUndisturbed.arrivals
      | @somebody caller c hReadable hWilling hWelcomed =>
          have hTaken :
              c.socket.id = r.host.nextId ∧
                c.host.nextId = r.host.nextId.next := by
            rw [hWelcomed.admitted]
            rcases @Socket.admitted_inherits _ _ _
                (r.listener.socket.admission _ _) rfl with
              ⟨hId, _, _, _, hNextId⟩
            exact ⟨hId, hNextId⟩
          refine hNumbered.one ?_ ?_ ?_
          · rw [hWelcomed.made, hTaken.1]
          · rw [hWelcomed.host, hTaken.2]
          · rw [hWelcomed.made, hWelcomed.arrivals,
              List.map_append]
            exact
              hNumbered.arrivals.append
                (List.Sublist.refl _)

/- The listening socket takes the first number. -/
theorem numbered_reception (o : Opening) :
    Numbered o.host.nextId o.reception := by
  constructor
  · change [o.host.nextId] = [o.host.nextId.later 0]
    rw [SocketId.later_zero]
  · change
      (o.host.nextId).next = o.host.nextId.later 1
    rw [← SocketId.next_later, SocketId.later_zero]
  · exact List.nil_sublist _

/- Whatever happens at a reception, numbers are in order. -/
theorem numbered_run
    (o : Opening)
    (actions : List Action) :
    Numbered o.host.nextId (o.reception.run actions) := by
  have hBoth :
      let r := o.reception.run actions
      (∃ read, Attended o read r) ∧
        Numbered o.host.nextId r := by
    unfold run
    apply List.foldlRecOn actions Reception.act
      (motive := fun r =>
        (∃ read, Attended o read r) ∧
          Numbered o.host.nextId r)
    · exact
        ⟨⟨[], attended_reception o⟩, numbered_reception o⟩
    · rintro r ⟨⟨read, hAttended⟩, hNumbered⟩ action _
      exact
        ⟨hAttended.act action,
          hNumbered.act hAttended action⟩
  exact hBoth.2

end Reception

end FrameLink
