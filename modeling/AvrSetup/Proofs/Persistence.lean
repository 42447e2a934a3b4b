import AvrSetup.Atmega328p.Device
import AvrSetup.Diagnosis.Check
import Mathlib.Data.List.Flatten

/-!
# Remarks that persist

A configuration may be checked while it is still being put together. A peripheral that is added
later brings remarks of its own, and it may stand anywhere among the owners of a pin. It takes
no remark back, though, and those that were there keep their order
(`Device.check_sublist_insert`).
-/

namespace AvrSetup

/-- Putting in an entry under a new key leaves the others in order. -/
theorem SortedMap.entries_sublist_insert {α β : Type} [Ord α] [Std.TransOrd α]
    [Std.LawfulEqOrd α] {map : SortedMap α β} {key : α} (hfree : map.get? key = none)
    (value : β) : map.entries.Sublist (map.insert key value).entries := by
  obtain ⟨entries, hascending⟩ := map
  change lookup key entries = none at hfree
  change entries.Sublist (insertEntry key value entries)
  clear hascending
  induction entries with
  | nil => exact List.nil_sublist _
  | cons head rest ih =>
    obtain ⟨other, found⟩ := head
    have hother : compare key other ≠ .eq := by
      intro heq
      simp [lookup, heq] at hfree
    have hrest : lookup key rest = none := by
      rwa [lookup, if_neg hother] at hfree
    rw [insertEntry]
    cases horder : compare key other with
    | lt => exact List.sublist_cons_self _ _
    | eq => exact absurd horder hother
    | gt => exact (ih hrest).cons_cons _

/-- The pairs of some members of a list are among the pairs of all of them, in order. -/
theorem pairs_sublist {α : Type} {list larger : List α} (h : list.Sublist larger) :
    (pairs list).Sublist (pairs larger) := by
  induction h with
  | slnil => exact .slnil
  | cons head hrest ih => exact ih.trans (List.sublist_append_right _ _)
  | cons_cons head hrest ih => exact (hrest.map _).append ih

section

variable {configuration : Configuration} {id : Peripheral}

/-- The owners of a pin stay in order when a peripheral is added. -/
theorem Configuration.ownersOf_sublist_insert (hfree : configuration.get? id = none)
    (state : State) (pin : Pin) :
    (configuration.ownersOf pin).Sublist
      (Configuration.ownersOf (configuration.insert id state) pin) := by
  have hentries := SortedMap.entries_sublist_insert hfree state
  exact ((hentries.filter _).filter _).map _

/-- A rule reserves nothing for a peripheral that is not there. For any other it reserves the same
pins when one is added. -/
theorem ConflictRule.reservedPins_sublist_insert (hfree : configuration.get? id = none)
    (state : State) (rule : ConflictRule) :
    (rule.reservedPins configuration).Sublist
      (rule.reservedPins (configuration.insert id state)) := by
  by_cases htrigger : rule.trigger = id
  · have hnone : rule.reservedPins configuration = [] := by
      unfold reservedPins
      rw [htrigger, hfree]
    exact hnone ▸ List.nil_sublist _
  · have hsame : rule.reservedPins (configuration.insert id state) =
        rule.reservedPins configuration := by
      unfold reservedPins
      rw [SortedMap.get?_insert, if_neg htrigger]
    exact hsame ▸ List.Sublist.refl _

/-- The conflicts with a rule stay in order when a peripheral is added. -/
theorem ConflictRule.conflicts_sublist_insert (hfree : configuration.get? id = none)
    (state : State) (rule : ConflictRule) :
    (rule.conflicts configuration).Sublist (rule.conflicts (configuration.insert id state)) := by
  unfold conflicts
  -- There may be more reserved pins, and there may be more owners of each of them.
  apply ((rule.reservedPins_sublist_insert hfree state).flatMap _).trans
  apply List.Sublist.flatMap_right
  intro pin _
  have howners := Configuration.ownersOf_sublist_insert hfree state pin
  exact (howners.filter _).map _

end

namespace Device

variable {device : Device} {configuration : Configuration} {id : Peripheral}

/-- The conflicts stay in order when a peripheral is added. -/
theorem conflicts_sublist_insert (hfree : configuration.get? id = none) (state : State) :
    (device.conflicts configuration).Sublist
      (device.conflicts (configuration.insert id state)) := by
  apply List.Sublist.flatMap_right
  intro rule _
  exact rule.conflicts_sublist_insert hfree state

/-- What does not fit the device stays so when a peripheral is added. -/
theorem problems_sublist_insert (hfree : configuration.get? id = none) (state : State) :
    (device.problems configuration).Sublist
      (device.problems (configuration.insert id state)) :=
  (SortedMap.entries_sublist_insert hfree state).flatMap _

/-- The warnings about shared pins stay in order when a peripheral is added. -/
theorem sharedPins_sublist_insert (hfree : configuration.get? id = none) (state : State) :
    (device.sharedPins configuration).Sublist
      (device.sharedPins (configuration.insert id state)) := by
  apply List.Sublist.flatMap_right
  intro pin _
  have hpairs := pairs_sublist (Configuration.ownersOf_sublist_insert hfree state pin)
  exact (hpairs.filter _).map _

/-- All remarks on a configuration are made again, in the same order, when a peripheral is added
that was not configured before, whatever its state. -/
theorem check_sublist_insert (device : Device) (hfree : configuration.get? id = none)
    (state : State) :
    (device.check configuration).Sublist (device.check (configuration.insert id state)) := by
  have hconflicts : (device.conflicts configuration).Sublist
      (device.conflicts (configuration.insert id state)) := conflicts_sublist_insert hfree state
  have hproblems : (device.problems configuration).Sublist
      (device.problems (configuration.insert id state)) := problems_sublist_insert hfree state
  have hshared : (device.sharedPins configuration).Sublist
      (device.sharedPins (configuration.insert id state)) := sharedPins_sublist_insert hfree state
  exact (hconflicts.map _).append (hproblems.append hshared)

end Device

namespace Atmega328p

/-- Three peripherals on the pin `PB3`, which is reserved for two of them. -/
def crowdedConfiguration : Configuration :=
  SortedMap.ofList
    [(.gpio, .pinBound (.ofList [(pinAt .b 3, ∅)]) ∅ ∅),
      (.spi, .pinBound (.ofList [(pinAt .b 3, ∅)]) ∅ ∅),
      (.timer2, .pinBound (.ofList [(pinAt .b 3, ∅)]) ∅ ∅)]

/-- The serial port, which does not reach the pin, comes in between with remarks of its own. -/
theorem check_sublist_insert_uart :
    crowdedConfiguration.get? .uart = none ∧ (device.check crowdedConfiguration).length = 5 ∧
      (device.check crowdedConfiguration).Sublist (device.check
        (crowdedConfiguration.insert .uart (.pinBound (.ofList [(pinAt .b 3, ∅)]) ∅ ∅))) := by
  have hfree : crowdedConfiguration.get? .uart = none := by decide
  exact ⟨hfree, by decide +kernel, Device.check_sublist_insert device hfree _⟩

end Atmega328p

end AvrSetup
