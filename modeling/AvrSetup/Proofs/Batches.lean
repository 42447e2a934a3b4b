import AvrSetup.Proofs.Pooling

/-!
# Requests in any order and in any batches

Requests for pin-change interrupts are pooled one by one or several at once, and the pool is
then read out port by port. This file shows that only what is asked for matters, and neither
the order, nor the batches, nor how often (`Pool.groups_afterCalls`): the ports are those of the
requested pins, each pin stands once in its port, and it has its pull-up if any request for it
wants that.
-/

namespace AvrSetup.PinChange.Pool

/-! ## Calls -/

/-- A call that puts requests into a pool. -/
inductive Call where
  /-- Put in one request. -/
  | add (request : Request)
  /-- Put in several requests. -/
  | extend (requests : List Request)
  deriving DecidableEq, Repr

/-- The requests of a call. -/
def Call.requests : Call → List Request
  | add request => [request]
  | extend requests => requests

/-- The pool after a call. -/
def Call.applyTo (pool : Pool) : Call → Pool
  | add request => pool.add request
  | extend requests => pool.addAll requests

/-- The requests of some calls, in order. -/
def requested (calls : List Call) : List Request := calls.flatMap Call.requests

/-- The pool after some calls, empty at first. -/
def afterCalls (calls : List Call) : Pool := calls.foldl Call.applyTo ∅

/-- A call adds its requests. -/
theorem applyTo_eq_addAll (pool : Pool) (call : Call) :
    call.applyTo pool = pool.addAll call.requests := by
  cases call <;> rfl

/-- Calls add their requests one after the other. -/
theorem afterCalls_eq_ofRequests (calls : List Call) :
    afterCalls calls = ofRequests (requested calls) := by
  have hstep : Call.applyTo = fun pool call => pool.addAll call.requests := by
    funext pool call
    exact applyTo_eq_addAll pool call
  rw [afterCalls, hstep, ofRequests, requested, addAll, List.foldl_flatMap]
  rfl

/-! ## What is asked for -/

/-- The pool has a pin if it is asked for, with the pull-up if any request for it wants that. -/
theorem get?_ofRequests_eq_some_iff {requests : List Request} {pin : Pin} {pullUp : Bool} :
    (ofRequests requests).get? pin = some pullUp ↔
      (∃ request ∈ requests, request.pin = pin) ∧
        (pullUp = true ↔ ∃ request ∈ requests, request.pin = pin ∧ request.pullUp = true) := by
  have hwanted : (requests.any fun request => request.pin == pin && request.pullUp) = true ↔
      ∃ request ∈ requests, request.pin = pin ∧ request.pullUp = true := by
    simp only [List.any_eq_true, Bool.and_eq_true, beq_iff_eq]
  rw [get?_ofRequests]
  split
  · next hasked =>
    rw [Option.some.injEq, and_iff_right hasked, ← hwanted, ← Bool.eq_iff_iff, eq_comm]
  · next hasked => exact ⟨nofun, fun h => absurd h.1 hasked⟩

/-- Lists with the same requests give the same pool. -/
theorem ofRequests_congr {requests other : List Request}
    (h : ∀ request, request ∈ requests ↔ request ∈ other) :
    ofRequests requests = ofRequests other := by
  refine SortedMap.ext_get? fun pin => Option.ext fun pullUp => ?_
  simp only [get?_ofRequests_eq_some_iff, h]

/-! ## Groups -/

/-- The groups ascend by port. -/
theorem pairwise_group_groups (pool : Pool) :
    pool.groups.Pairwise fun left right => left.1.group < right.1.group := by
  have hports : Port.all.Pairwise fun left right => left.group < right.group := by decide
  exact List.Pairwise.filter _ (List.pairwise_map.mpr hports)

/-- A port has a group if one of its pins is asked for. -/
theorem exists_mem_groups_ofRequests_iff {requests : List Request} {port : Port} :
    (∃ pins, (port, pins) ∈ (ofRequests requests).groups) ↔
      ∃ request ∈ requests, request.pin.port = port := by
  simp only [exists_mem_groups_iff, mem_keys_ofRequests]
  constructor
  · rintro ⟨_, ⟨request, hrequest, rfl⟩, hport⟩
    exact ⟨request, hrequest, hport⟩
  · rintro ⟨request, hrequest, hport⟩
    exact ⟨request.pin, ⟨request, hrequest, rfl⟩, hport⟩

/-- The pins of a port ascend by bit. -/
theorem pairwise_bit_pinsOn (pool : Pool) (port : Port) :
    (pool.pinsOn port).Pairwise fun left right => left.1.bit < right.1.bit := by
  rw [pinsOn, List.pairwise_filter]
  refine pool.ascending.imp fun hlines hleft hright => ?_
  -- Pins are compared by their lines, which are those of the port and the bit.
  have hline := Nat.compare_eq_lt.mp hlines
  rw [Pin.line, Pin.line, beq_iff_eq.mp hleft, beq_iff_eq.mp hright] at hline
  exact Nat.lt_of_add_lt_add_left hline

/-- A pin stands in the group of its port if it is asked for, and its pull-up is wanted if any
request for it wants that. -/
theorem mem_pinsOn_ofRequests_iff {requests : List Request} {port : Port} {pin : Pin}
    {pullUp : Bool} :
    (pin, pullUp) ∈ (ofRequests requests).pinsOn port ↔
      pin.port = port ∧ (∃ request ∈ requests, request.pin = pin) ∧
        (pullUp = true ↔ ∃ request ∈ requests, request.pin = pin ∧ request.pullUp = true) := by
  rw [← get?_ofRequests_eq_some_iff, pinsOn, List.mem_filter, beq_iff_eq, and_comm]
  exact and_congr_right fun _ => ⟨SortedMap.get?_of_mem_entries, SortedMap.mem_entries_of_get?⟩

/-- After any calls, the groups are those of the ports with a requested pin, ascending. A group
has each requested pin of its port once, ascending by bit, with the pull-up if any request for
the pin wants it. So other calls with the same requests, in any order and number, give the same
groups. -/
theorem groups_afterCalls (calls : List Call) :
    (afterCalls calls).groups.Pairwise (fun left right => left.1.group < right.1.group) ∧
    (∀ port, (∃ pins, (port, pins) ∈ (afterCalls calls).groups) ↔
      ∃ request ∈ requested calls, request.pin.port = port) ∧
    (∀ port pins, (port, pins) ∈ (afterCalls calls).groups →
      pins.Pairwise (fun left right => left.1.bit < right.1.bit) ∧
      ∀ pin pullUp, (pin, pullUp) ∈ pins ↔
        pin.port = port ∧ (∃ request ∈ requested calls, request.pin = pin) ∧
          (pullUp = true ↔
            ∃ request ∈ requested calls, request.pin = pin ∧ request.pullUp = true)) ∧
    ∀ other : List Request, (∀ request, request ∈ other ↔ request ∈ requested calls) →
      (ofRequests other).groups = (afterCalls calls).groups := by
  rw [afterCalls_eq_ofRequests]
  refine ⟨pairwise_group_groups _, fun port => exists_mem_groups_ofRequests_iff, ?_, ?_⟩
  · intro port pins hgroup
    obtain ⟨rfl, -⟩ := mem_groups_iff.mp hgroup
    exact ⟨pairwise_bit_pinsOn _ _, fun _ _ => mem_pinsOn_ofRequests_iff⟩
  · intro other hsame
    rw [ofRequests_congr hsame]

/-- Requests for two pins of one port, one of which is asked for twice. -/
def repeatedRequests : List Request :=
  [⟨⟨.d, ⟨4, by decide⟩⟩, false, .explicit⟩, ⟨⟨.d, ⟨2, by decide⟩⟩, false, .explicit⟩,
    ⟨⟨.d, ⟨4, by decide⟩⟩, true, .flagged⟩]

/-- It does not matter whether these requests come at once and the last one again, or in the
other order and once. -/
theorem groups_repeatedRequests :
    (∀ request, request ∈ repeatedRequests.reverse ↔
      request ∈ requested [.extend repeatedRequests, .extend (repeatedRequests.drop 2)]) ∧
    (ofRequests repeatedRequests.reverse).groups =
      (afterCalls [.extend repeatedRequests, .extend (repeatedRequests.drop 2)]).groups := by
  have hsame (request : Request) : request ∈ repeatedRequests.reverse ↔
      request ∈ requested [.extend repeatedRequests, .extend (repeatedRequests.drop 2)] := by
    have hdrop : request ∈ repeatedRequests.drop 2 → request ∈ repeatedRequests :=
      List.mem_of_mem_drop
    simp only [requested, Call.requests, List.mem_reverse, List.flatMap_cons, List.flatMap_nil,
      List.append_nil, List.mem_append]
    exact ⟨.inl, fun h => h.elim id hdrop⟩
  exact ⟨hsame, (groups_afterCalls _).2.2.2 _ hsame⟩

end AvrSetup.PinChange.Pool
