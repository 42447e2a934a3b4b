import AvrSetup.Code.PinChange
import Mathlib.Data.List.Induction

/-!
# Pooled requests

A pool holds one entry for each pin that is asked for. This file reads it back from the
requests: the pull-up of a pin is wanted if any request for the pin wants it
(`Pool.get?_ofRequests`), and a port has a group exactly if one of its pins is asked for
(`Pool.exists_mem_groups_iff`). The requests come from the pins that are configured for the two
peripherals.
-/

namespace AvrSetup.PinChange

/-! ## Pools -/

namespace Pool

theorem ofRequests_concat (requests : List Request) (request : Request) :
    ofRequests (requests ++ [request]) = (ofRequests requests).add request := by
  rw [ofRequests, addAll, List.foldl_append]
  rfl

/-- A pin is in the pool if it is asked for, and then its pull-up is wanted if any request for
the pin wants it. -/
theorem get?_ofRequests (requests : List Request) (pin : Pin) :
    (ofRequests requests).get? pin =
      if ∃ request ∈ requests, request.pin = pin then
        some (requests.any fun request => request.pin == pin && request.pullUp)
      else none := by
  induction requests using List.reverseRecOn with
  | nil => rfl
  | append_singleton requests request ih =>
    rw [ofRequests_concat, add, SortedMap.get?_insert, ih, List.any_append]
    by_cases hpin : request.pin = pin
    · subst hpin
      by_cases hearlier : ∃ other ∈ requests, other.pin = request.pin
      · simp [hearlier, ih]
      · have hnone : (requests.any fun other =>
            other.pin == request.pin && other.pullUp) = false := by
          simp only [List.any_eq_false, Bool.and_eq_true, beq_iff_eq, not_and]
          exact fun other hother heq => absurd ⟨other, hother, heq⟩ hearlier
        simp [hearlier, ih, hnone]
    · have hother : pin ≠ request.pin := fun heq => hpin heq.symm
      have hdiffers : (request.pin == pin) = false := beq_eq_false_iff_ne.mpr hpin
      simp [hpin, hother, hdiffers]

/-- The pins of the pool are those that are asked for. -/
theorem mem_keys_ofRequests {requests : List Request} {pin : Pin} :
    pin ∈ (ofRequests requests).keys ↔ ∃ request ∈ requests, request.pin = pin := by
  rw [SortedMap.mem_keys_iff]
  simp only [get?_ofRequests]
  split
  · next h => simp [h]
  · next h => simp [h]

/-- A group is a port with all of its pins in the pool, of which there is at least one. -/
theorem mem_groups_iff {pool : Pool} {port : Port} {pins : List (Pin × Bool)} :
    (port, pins) ∈ pool.groups ↔ pins = pool.pinsOn port ∧ pins ≠ [] := by
  simp only [groups, List.mem_filter, List.mem_map, Prod.mk.injEq, Bool.not_eq_true',
    List.isEmpty_eq_false_iff]
  constructor
  · rintro ⟨⟨_, _, rfl, rfl⟩, hne⟩
    exact ⟨rfl, hne⟩
  · rintro ⟨rfl, hne⟩
    exact ⟨⟨port, port.mem_all, rfl, rfl⟩, hne⟩

/-- A port has a group if one of its pins is in the pool. -/
theorem exists_mem_groups_iff {pool : Pool} {port : Port} :
    (∃ pins, (port, pins) ∈ pool.groups) ↔ ∃ pin ∈ pool.keys, pin.port = port := by
  simp only [mem_groups_iff, exists_eq_left, pinsOn, ne_eq, List.filter_eq_nil_iff, not_forall,
    not_not, beq_iff_eq, SortedMap.keys, List.mem_map]
  constructor
  · rintro ⟨entry, hentry, hport⟩
    exact ⟨entry.1, ⟨entry, hentry, rfl⟩, hport⟩
  · rintro ⟨_, ⟨entry, hentry, rfl⟩, hport⟩
    exact ⟨entry, hentry, hport⟩

end Pool

/-! ## Where requests come from -/

variable {device : Device} {configuration : Configuration} {id : Peripheral} {pin : Pin}
  {settings : Settings}

/-- A pin is configured for a peripheral if that is described, has a state that takes the pin,
and reaches it. Its settings are those in force. -/
theorem mem_configuredPins : (pin, settings) ∈ configuredPins device configuration id ↔
    ∃ descriptor state given, device.descriptor? id = some descriptor ∧
      configuration.get? id = some state ∧ state.pinSettings.get? pin = some given ∧
      descriptor.declaresPin pin = true ∧
      settings = descriptor.pinSettings state.settings given := by
  unfold configuredPins
  split
  · next descriptor state hdescriptor hstate =>
    simp only [List.mem_map, List.mem_filter, Prod.mk.injEq, hdescriptor, hstate,
      Option.some.injEq]
    constructor
    · rintro ⟨⟨_, given⟩, ⟨hentry, hdeclared⟩, rfl, rfl⟩
      exact ⟨descriptor, state, given, rfl, rfl, SortedMap.get?_of_mem_entries hentry, hdeclared,
        rfl⟩
    · rintro ⟨_, _, given, rfl, rfl, hgiven, hdeclared, rfl⟩
      exact ⟨(pin, given), ⟨SortedMap.mem_entries_of_get? hgiven, hdeclared⟩, rfl, rfl⟩
  · next hnone =>
    constructor
    · nofun
    · rintro ⟨descriptor, state, _, hdescriptor, hstate, -⟩
      exact absurd hstate (hnone descriptor state hdescriptor)

/-- A pin is configured with one record of settings. -/
theorem configuredPins_unique {other : Settings}
    (h : (pin, settings) ∈ configuredPins device configuration id)
    (hother : (pin, other) ∈ configuredPins device configuration id) : other = settings := by
  obtain ⟨descriptor, state, given, hdescriptor, hstate, hgiven, -, rfl⟩ :=
    mem_configuredPins.mp h
  obtain ⟨_, _, _, hdescriptor', hstate', hgiven', -, rfl⟩ := mem_configuredPins.mp hother
  obtain rfl := Option.some.inj (hdescriptor.symm.trans hdescriptor')
  obtain rfl := Option.some.inj (hstate.symm.trans hstate')
  obtain rfl := Option.some.inj (hgiven.symm.trans hgiven')
  rfl

/-- The pin of a request that is assigned is configured for the pin-change interrupts. -/
theorem exists_explicitRequest_iff :
    (∃ request ∈ explicitRequests device configuration, request.pin = pin) ↔
      ∃ settings, (pin, settings) ∈ configuredPins device configuration .pcint := by
  simp only [explicitRequests, List.mem_map]
  constructor
  · rintro ⟨_, ⟨⟨_, settings⟩, hmem, rfl⟩, rfl⟩
    exact ⟨settings, hmem⟩
  · rintro ⟨settings, hmem⟩
    exact ⟨_, ⟨(pin, settings), hmem, rfl⟩, rfl⟩

/-- The pin of a flagged request is a plain pin with the flag. -/
theorem exists_flaggedRequest_iff :
    (∃ request ∈ flaggedRequests device configuration, request.pin = pin) ↔
      ∃ settings, (pin, settings) ∈ configuredPins device configuration .gpio ∧
        settings.isTruthy "pcint" = true := by
  simp only [flaggedRequests, List.mem_map, List.mem_filter]
  constructor
  · rintro ⟨_, ⟨⟨_, settings⟩, ⟨hmem, hflag⟩, rfl⟩, rfl⟩
    exact ⟨settings, hmem, hflag⟩
  · rintro ⟨settings, hmem, hflag⟩
    exact ⟨_, ⟨(pin, settings), ⟨hmem, hflag⟩, rfl⟩, rfl⟩

end AvrSetup.PinChange
