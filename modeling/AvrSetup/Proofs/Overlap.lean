import AvrSetup.Proofs.Validity
import Mathlib.Data.List.Nodup
import Mathlib.Logic.Basic

/-!
# Every shared pin is reported once

Conflicts are found rule by rule, and the warnings about shared pins are found pin by pin
from the pairs of its owners. This file proves that the two searches are complementary: an
overlap that some rule covers gives a conflict, any other one gives exactly one warning,
and nothing is said about pins that are not shared.
-/

namespace AvrSetup

/-- A peripheral takes a pin in a configuration. -/
def Configuration.Takes (configuration : Configuration) (id : Peripheral) (pin : Pin) : Prop :=
  ∃ state, configuration.get? id = some state ∧ state.occupies pin = true

/-- A conflict is between two peripherals, whichever of them the pin is reserved for. -/
def Conflict.IsBetween (conflict : Conflict) (left right : Peripheral) : Prop :=
  (conflict.trigger = left ∧ conflict.other = right) ∨
    (conflict.trigger = right ∧ conflict.other = left)

/-! ## Owners of a pin -/

/-- A state that takes a pin asks for code. -/
theorem State.isActive_of_occupies {state : State} {pin : Pin} (h : state.occupies pin = true) :
    state.isActive = true := by
  obtain ⟨value, hvalue⟩ := SortedMap.contains_iff.mp h
  cases state with
  | pinBound pins settings interrupts =>
    have hmem : (pin, value) ∈ pins.entries := SortedMap.mem_entries_of_get? hvalue
    have hne : pins.entries ≠ [] := List.ne_nil_of_mem hmem
    simpa [State.isActive, SortedMap.isEmpty] using hne
  | interruptOnly interrupt settings => rfl
  | global enabled settings interrupts => cases hvalue

/-- The owners of a pin are the peripherals that take it. -/
theorem Configuration.mem_ownersOf {configuration : Configuration} {id : Peripheral} {pin : Pin} :
    id ∈ configuration.ownersOf pin ↔ configuration.Takes id pin := by
  simp only [ownersOf, active, List.mem_map, List.mem_filter]
  constructor
  · rintro ⟨⟨key, state⟩, ⟨⟨hmem, _⟩, hoccupies⟩, rfl⟩
    exact ⟨state, SortedMap.get?_of_mem_entries hmem, hoccupies⟩
  · rintro ⟨state, hget, hoccupies⟩
    have hactive := State.isActive_of_occupies hoccupies
    exact ⟨(id, state), ⟨⟨SortedMap.mem_entries_of_get? hget, hactive⟩, hoccupies⟩, rfl⟩

/-- The owners of a pin ascend strictly. -/
theorem Configuration.ownersOf_ascending (configuration : Configuration) (pin : Pin) :
    (configuration.ownersOf pin).Pairwise fun left right => compare left right = .lt := by
  have hsublist : List.Sublist (configuration.active.filter fun entry => entry.2.occupies pin)
      configuration.entries :=
    List.filter_sublist.trans List.filter_sublist
  exact List.pairwise_map.mpr (configuration.ascending.sublist hsublist)

/-! ## Pairs -/

/-- The members of a pair stand in the list, related as any earlier member to a later one. -/
theorem of_mem_pairs {α : Type} {R : α → α → Prop} {list : List α} (hlist : list.Pairwise R)
    {left right : α} (h : (left, right) ∈ pairs list) :
    left ∈ list ∧ right ∈ list ∧ R left right := by
  induction list with
  | nil => cases h
  | cons head rest ih =>
    obtain ⟨hhead, hrest⟩ := List.pairwise_cons.mp hlist
    rcases List.mem_append.mp h with h | h
    · obtain ⟨other, hother, heq⟩ := List.mem_map.mp h
      cases heq
      exact ⟨List.mem_cons_self, List.mem_cons_of_mem _ hother, hhead right hother⟩
    · obtain ⟨hleft, hright, hR⟩ := ih hrest h
      exact ⟨List.mem_cons_of_mem _ hleft, List.mem_cons_of_mem _ hright, hR⟩

/-- Of two different members of a list, one is paired with the other. -/
theorem mem_pairs_of_mem {α : Type} {list : List α} {left right : α} (hne : left ≠ right)
    (hleft : left ∈ list) (hright : right ∈ list) :
    (left, right) ∈ pairs list ∨ (right, left) ∈ pairs list := by
  induction list with
  | nil => cases hleft
  | cons head rest ih =>
    rcases List.mem_cons.mp hleft with rfl | hleftRest
    · rcases List.mem_cons.mp hright with rfl | hrightRest
      · exact absurd rfl hne
      · exact Or.inl (List.mem_append_left _ (List.mem_map_of_mem hrightRest))
    · rcases List.mem_cons.mp hright with rfl | hrightRest
      · exact Or.inr (List.mem_append_left _ (List.mem_map_of_mem hleftRest))
      · exact (ih hleftRest hrightRest).imp (List.mem_append_right _) (List.mem_append_right _)

/-- No pair of a list without repetitions is met twice. -/
theorem nodup_pairs {α : Type} {list : List α} (h : list.Nodup) : (pairs list).Nodup := by
  induction list with
  | nil => exact List.nodup_nil
  | cons head rest ih =>
    obtain ⟨hhead, hrest⟩ := List.nodup_cons.mp h
    refine List.nodup_append.mpr ⟨hrest.map fun _ _ heq => (Prod.mk.inj heq).2, ih hrest, ?_⟩
    rintro pair hmap _ hpairs rfl
    obtain ⟨other, _, rfl⟩ := List.mem_map.mp hmap
    -- A pair of the rest cannot begin with the head, which is not in the rest.
    exact hhead (of_mem_pairs (List.pairwise_of_forall (R := fun _ _ => True) fun _ _ => trivial)
      hpairs).1

/-- The pairs of owners of a pin are the overlaps on it, the earlier peripheral first. -/
theorem Configuration.mem_pairs_ownersOf {configuration : Configuration} {pin : Pin}
    {left right : Peripheral} :
    (left, right) ∈ pairs (configuration.ownersOf pin) ↔
      compare left right = .lt ∧ configuration.Takes left pin ∧ configuration.Takes right pin := by
  have hascending := configuration.ownersOf_ascending pin
  constructor
  · intro h
    obtain ⟨hleft, hright, hlt⟩ := of_mem_pairs hascending h
    exact ⟨hlt, mem_ownersOf.mp hleft, mem_ownersOf.mp hright⟩
  · rintro ⟨hlt, hleft, hright⟩
    have hne : left ≠ right := by
      rintro rfl
      simp [Std.ReflCmp.compare_self] at hlt
    rcases mem_pairs_of_mem hne (mem_ownersOf.mpr hleft) (mem_ownersOf.mpr hright) with h | h
    · exact h
    · have hgt := (of_mem_pairs hascending h).2.2
      exact absurd (Std.TransCmp.lt_trans hlt hgt) (by simp [Std.ReflCmp.compare_self])

/-! ## Conflicts -/

/-- A rule covers two peripherals on a pin if it reserves the pin for one and forbids it to
the other. -/
theorem ConflictRule.covers_iff {rule : ConflictRule} {pin : Pin} {left right : Peripheral} :
    rule.covers pin left right = true ↔ pin ∈ rule.pins ∧
      ((rule.trigger = left ∧ rule.forbids right = true) ∨
        (rule.trigger = right ∧ rule.forbids left = true)) := by
  simp [covers]

/-- The pins that a rule reserves are those of its pins that its peripheral takes. -/
theorem ConflictRule.mem_reservedPins {rule : ConflictRule} {configuration : Configuration}
    {pin : Pin} :
    pin ∈ rule.reservedPins configuration ↔
      pin ∈ rule.pins ∧ configuration.Takes rule.trigger pin := by
  unfold reservedPins Configuration.Takes
  cases hget : configuration.get? rule.trigger with
  | none => simp
  | some state => simp [List.mem_filter]

/-- A conflict is found exactly where a rule forbids a peripheral a pin that both it and the
peripheral of the rule take. -/
theorem Device.mem_conflicts {device : Device} {configuration : Configuration}
    {conflict : Conflict} :
    conflict ∈ device.conflicts configuration ↔
      ∃ rule ∈ device.rules, conflict.pin ∈ rule.pins ∧ rule.trigger = conflict.trigger ∧
        rule.forbids conflict.other = true ∧ rule.message = conflict.message ∧
        configuration.Takes conflict.trigger conflict.pin ∧
        configuration.Takes conflict.other conflict.pin := by
  obtain ⟨trigger, other, pin, message⟩ := conflict
  simp only [conflicts, ConflictRule.conflicts, List.mem_flatMap, List.mem_map, List.mem_filter,
    ConflictRule.mem_reservedPins, Configuration.mem_ownersOf]
  constructor
  · rintro ⟨rule, hrule, reserved, ⟨hpin, htrigger⟩, owner, ⟨howner, hforbids⟩, heq⟩
    cases heq
    exact ⟨rule, hrule, hpin, rfl, hforbids, rfl, htrigger, howner⟩
  · rintro ⟨rule, hrule, hpin, rfl, hforbids, rfl, htrigger, hother⟩
    exact ⟨rule, hrule, pin, ⟨hpin, htrigger⟩, other, ⟨hother, hforbids⟩, rfl⟩

/-- Both peripherals of a conflict take its pin. -/
theorem Device.takes_of_mem_conflicts {device : Device} {configuration : Configuration}
    {conflict : Conflict} (h : conflict ∈ device.conflicts configuration) :
    configuration.Takes conflict.trigger conflict.pin ∧
      configuration.Takes conflict.other conflict.pin := by
  obtain ⟨rule, _, _, _, _, _, htakes⟩ := mem_conflicts.mp h
  exact htakes

/-- An overlap gives a conflict exactly if some rule covers it. -/
theorem Device.exists_conflict_iff {device : Device} {configuration : Configuration} {pin : Pin}
    {left right : Peripheral} (hleft : configuration.Takes left pin)
    (hright : configuration.Takes right pin) :
    (∃ conflict ∈ device.conflicts configuration,
        conflict.pin = pin ∧ conflict.IsBetween left right) ↔
      ∃ rule ∈ device.rules, pin ∈ rule.pins ∧
        ((rule.trigger = left ∧ rule.forbids right = true) ∨
          (rule.trigger = right ∧ rule.forbids left = true)) := by
  constructor
  · rintro ⟨⟨trigger, other, _, message⟩, hmem, rfl, hbetween⟩
    obtain ⟨rule, hrule, hpin, htrigger, hforbids, -, -⟩ := mem_conflicts.mp hmem
    refine ⟨rule, hrule, hpin, ?_⟩
    rcases hbetween with ⟨rfl, rfl⟩ | ⟨rfl, rfl⟩
    · exact Or.inl ⟨htrigger, hforbids⟩
    · exact Or.inr ⟨htrigger, hforbids⟩
  · rintro ⟨rule, hrule, hpin, ⟨htrigger, hforbids⟩ | ⟨htrigger, hforbids⟩⟩
    · refine ⟨⟨left, right, pin, rule.message⟩, ?_, rfl, Or.inl ⟨rfl, rfl⟩⟩
      exact mem_conflicts.mpr ⟨rule, hrule, hpin, htrigger, hforbids, rfl, hleft, hright⟩
    · refine ⟨⟨right, left, pin, rule.message⟩, ?_, rfl, Or.inr ⟨rfl, rfl⟩⟩
      exact mem_conflicts.mpr ⟨rule, hrule, hpin, htrigger, hforbids, rfl, hright, hleft⟩

/-! ## Warnings -/

/-- A warning about a shared pin tells its pin and both peripherals. -/
theorem Diagnostic.sharedPin_inj {pin pin' : Pin} {earlier later earlier' later' : Peripheral}
    (h : sharedPin pin earlier later = sharedPin pin' earlier' later') :
    pin = pin' ∧ earlier = earlier' ∧ later = later' := by
  simp only [sharedPin, atPin, warning, Diagnostic.mk.injEq, Option.some.injEq, true_and] at h
  obtain ⟨rfl, rfl, hmessage⟩ := h
  exact ⟨rfl, Peripheral.name_injective (String.append_right_inj _ |>.mp hmessage), rfl⟩

/-- There is a warning exactly about the overlaps that no rule covers and that are not exempt. -/
theorem Device.mem_sharedPins {device : Device} {configuration : Configuration}
    {diagnostic : Diagnostic} :
    diagnostic ∈ device.sharedPins configuration ↔
      ∃ pin earlier later, diagnostic = .sharedPin pin earlier later ∧
        compare earlier later = .lt ∧ configuration.Takes earlier pin ∧
        configuration.Takes later pin ∧ mayShare earlier later = false ∧
        device.covers pin earlier later = false := by
  simp only [sharedPins, sharedPin, List.mem_flatMap, List.mem_map, List.mem_filter, Prod.exists,
    Configuration.mem_pairs_ownersOf, Bool.and_eq_true, Bool.not_eq_true']
  constructor
  · rintro ⟨pin, -, earlier, later, ⟨⟨hlt, hearlier, hlater⟩, hshare, hcovers⟩, rfl⟩
    exact ⟨pin, earlier, later, rfl, hlt, hearlier, hlater, hshare, hcovers⟩
  · rintro ⟨pin, earlier, later, rfl, hlt, hearlier, hlater, hshare, hcovers⟩
    exact ⟨pin, pin.mem_all, earlier, later, ⟨⟨hlt, hearlier, hlater⟩, hshare, hcovers⟩, rfl⟩

/-- No warning about a shared pin is given twice. -/
theorem Device.nodup_sharedPins (device : Device) (configuration : Configuration) :
    (device.sharedPins configuration).Nodup := by
  refine List.nodup_flatMap.mpr ⟨fun pin _ => ?_, ?_⟩
  · have hnodup : (configuration.ownersOf pin).Nodup := by
      refine (configuration.ownersOf_ascending pin).imp ?_
      rintro left _ hlt rfl
      simp [Std.ReflCmp.compare_self] at hlt
    refine ((nodup_pairs hnodup).filter _).map ?_
    rintro ⟨left, right⟩ ⟨left', right'⟩ heq
    obtain ⟨-, rfl, rfl⟩ := Diagnostic.sharedPin_inj heq
    rfl
  · refine Pin.nodup_all.imp ?_
    rintro pin pin' hne diagnostic hmem hmem'
    obtain ⟨⟨left, right⟩, -, rfl⟩ := List.mem_map.mp hmem
    obtain ⟨⟨left', right'⟩, -, heq⟩ := List.mem_map.mp hmem'
    exact hne (Diagnostic.sharedPin_inj heq).1.symm

/-- What is wrong with a setting is never that a pin is shared. -/
theorem Descriptor.topic_of_mem_recordProblems {descriptor : Descriptor} {pin : Option Pin}
    {settings : Settings} {diagnostic : Diagnostic}
    (h : diagnostic ∈ descriptor.recordProblems pin settings) :
    diagnostic.topic ≠ .sharedPin ∧ diagnostic.topic ≠ .conflict := by
  obtain ⟨⟨key, value⟩, -, hmem⟩ := List.mem_flatMap.mp h
  simp only [settingProblems] at hmem
  split at hmem
  · obtain rfl := List.mem_singleton.mp hmem
    exact ⟨nofun, nofun⟩
  · rcases List.mem_append.mp hmem with hmem | hmem <;> split at hmem <;> simp_all

/-- What is wrong with a pin is never that it is shared. -/
theorem Descriptor.topic_of_mem_pinProblems {descriptor : Descriptor} {pin : Pin}
    {settings : Settings} {diagnostic : Diagnostic}
    (h : diagnostic ∈ descriptor.pinProblems pin settings) :
    diagnostic.topic ≠ .sharedPin ∧ diagnostic.topic ≠ .conflict := by
  unfold pinProblems at h
  split at h
  · exact topic_of_mem_recordProblems h
  · obtain rfl := List.mem_singleton.mp h
    exact ⟨nofun, nofun⟩

/-- What is wrong with a state is never that a pin is shared. -/
theorem Descriptor.topic_of_mem_stateProblems {descriptor : Descriptor} {state : State}
    {diagnostic : Diagnostic} (h : diagnostic ∈ descriptor.stateProblems state) :
    diagnostic.topic ≠ .sharedPin ∧ diagnostic.topic ≠ .conflict := by
  unfold stateProblems at h
  split at h
  · next problem hproblem =>
    obtain rfl := List.mem_singleton.mp h
    rw [(isError_of_shapeProblem? hproblem).2]
    exact ⟨nofun, nofun⟩
  · simp only [List.mem_append, or_assoc] at h
    rcases h with hrecord | hpins | hincomplete | hinterrupts
    · exact topic_of_mem_recordProblems hrecord
    · obtain ⟨entry, -, hpin⟩ := List.mem_flatMap.mp hpins
      exact topic_of_mem_pinProblems hpin
    · simp only [incompleteProblems] at hincomplete
      split at hincomplete
      · obtain rfl := List.mem_singleton.mp hincomplete
        exact ⟨nofun, nofun⟩
      · cases hincomplete
    · obtain ⟨entry, -, rfl⟩ := List.mem_map.mp hinterrupts
      exact ⟨nofun, nofun⟩

/-- What does not fit the device is never that a pin is shared, by a rule or otherwise. -/
theorem Device.topic_of_mem_problems {device : Device} {configuration : Configuration}
    {diagnostic : Diagnostic} (h : diagnostic ∈ device.problems configuration) :
    diagnostic.topic ≠ .sharedPin ∧ diagnostic.topic ≠ .conflict := by
  obtain ⟨⟨peripheral, state⟩, -, hmem⟩ := List.mem_flatMap.mp h
  simp only [entryProblems] at hmem
  split at hmem
  · exact Descriptor.topic_of_mem_stateProblems hmem
  · obtain rfl := List.mem_singleton.mp hmem
    exact ⟨nofun, nofun⟩

/-- Validation warns about a shared pin exactly where the search for shared pins does. -/
theorem Device.mem_validate_iff {device : Device} {configuration : Configuration}
    {diagnostic : Diagnostic} (htopic : diagnostic.topic = .sharedPin) :
    diagnostic ∈ device.validate configuration ↔ diagnostic ∈ device.sharedPins configuration := by
  rw [validate, List.mem_append, or_iff_right]
  intro hmem
  exact (topic_of_mem_problems hmem).1 htopic

/-- An overlap gives a warning exactly if it is not exempt and no rule covers it. -/
theorem Device.sharedPin_mem_validate {device : Device} {configuration : Configuration} {pin : Pin}
    {earlier later : Peripheral} (hlt : compare earlier later = .lt)
    (hearlier : configuration.Takes earlier pin) (hlater : configuration.Takes later pin) :
    Diagnostic.sharedPin pin earlier later ∈ device.validate configuration ↔
      mayShare earlier later = false ∧ device.covers pin earlier later = false := by
  rw [mem_validate_iff rfl, mem_sharedPins]
  constructor
  · rintro ⟨pin', earlier', later', heq, -, -, -, hshare, hcovers⟩
    obtain ⟨rfl, rfl, rfl⟩ := Diagnostic.sharedPin_inj heq
    exact ⟨hshare, hcovers⟩
  · rintro ⟨hshare, hcovers⟩
    exact ⟨pin, earlier, later, rfl, hlt, hearlier, hlater, hshare, hcovers⟩

/-- A warning about a shared pin that is given is given once. -/
theorem Device.count_validate_eq_one {device : Device} {configuration : Configuration}
    {diagnostic : Diagnostic} (htopic : diagnostic.topic = .sharedPin)
    (h : diagnostic ∈ device.validate configuration) :
    (device.validate configuration).count diagnostic = 1 := by
  have hproblems : (device.problems configuration).count diagnostic = 0 :=
    List.count_eq_zero.mpr fun hmem => (topic_of_mem_problems hmem).1 htopic
  have hshared : (device.sharedPins configuration).count diagnostic = 1 :=
    List.count_eq_one_of_mem (device.nodup_sharedPins configuration)
      ((mem_validate_iff htopic).mp h)
  rw [validate, List.count_append, hproblems, hshared]

/-! ## Overlaps -/

/-- Two peripherals may share pins only if they are plain input and the pin-change
interrupts. -/
theorem mayShare_eq_true_iff {earlier later : Peripheral} (hlt : compare earlier later = .lt) :
    mayShare earlier later = true ↔ (earlier, later) = (.gpio, .pcint) := by
  constructor
  · intro h
    rcases Bool.or_eq_true _ _ |>.mp h with h | h
    · exact beq_iff_eq.mp h
    · cases beq_iff_eq.mp h
      cases hlt
  · rintro ⟨⟩
    rfl

/-- Every overlap of two peripherals on a pin is reported by one of the two searches, and not
by both: as a conflict, or by one warning that names the pin and both peripherals. Plain input
beside pin-change interrupts gives no warning, and a conflict only under a rule. Nothing is
reported but overlaps. -/
theorem Device.overlap_reported_once (device : Device) (configuration : Configuration) :
    (∀ (pin : Pin) (earlier later : Peripheral), compare earlier later = .lt →
      configuration.Takes earlier pin → configuration.Takes later pin →
      let conflicts := ∃ conflict ∈ device.conflicts configuration,
        conflict.pin = pin ∧ conflict.IsBetween earlier later
      let warning : Diagnostic := ⟨.warning, .sharedPin, later, some pin, none,
        pin.name ++ " is also used by " ++ earlier.name⟩
      ((earlier, later) ≠ (.gpio, .pcint) →
        Xor conflicts (warning ∈ device.validate configuration) ∧
          (¬conflicts → (device.validate configuration).count warning = 1)) ∧
      ((earlier, later) = (.gpio, .pcint) →
        (∀ diagnostic ∈ device.validate configuration, diagnostic.topic = .sharedPin →
          diagnostic ≠ .sharedPin pin earlier later ∧ diagnostic ≠ .sharedPin pin later earlier) ∧
        (conflicts ↔ ∃ rule ∈ device.rules, pin ∈ rule.pins ∧
          ((rule.trigger = earlier ∧ rule.forbids later = true) ∨
            (rule.trigger = later ∧ rule.forbids earlier = true))))) ∧
    (∀ conflict ∈ device.conflicts configuration,
      configuration.Takes conflict.trigger conflict.pin ∧
        configuration.Takes conflict.other conflict.pin) ∧
    ∀ diagnostic ∈ device.validate configuration, diagnostic.topic = .sharedPin →
      ∃ pin earlier later, diagnostic = ⟨.warning, .sharedPin, later, some pin, none,
        pin.name ++ " is also used by " ++ earlier.name⟩ ∧
        configuration.Takes earlier pin ∧ configuration.Takes later pin := by
  refine ⟨?_, fun conflict => takes_of_mem_conflicts, ?_⟩
  · intro pin earlier later hlt hearlier hlater conflicts warning
    have hconflicts : conflicts ↔ device.covers pin earlier later = true := by
      rw [covers, List.any_eq_true]
      simp only [ConflictRule.covers_iff]
      exact exists_conflict_iff hearlier hlater
    have hwarning : warning ∈ device.validate configuration ↔
        mayShare earlier later = false ∧ device.covers pin earlier later = false :=
      sharedPin_mem_validate hlt hearlier hlater
    have hshare := mayShare_eq_true_iff hlt
    constructor
    · intro hne
      have hmay : mayShare earlier later = false := by rwa [← Bool.not_eq_true, hshare]
      have hxor : conflicts ↔ warning ∉ device.validate configuration := by
        rw [hconflicts, hwarning, ← Bool.not_eq_true (device.covers pin earlier later)]
        simp [hmay]
      refine ⟨xor_iff_iff_not.mpr hxor, fun hnone => ?_⟩
      exact count_validate_eq_one rfl (not_not.mp (mt hxor.mpr hnone))
    · intro heq
      refine ⟨fun diagnostic hmem htopic => ⟨?_, ?_⟩, exists_conflict_iff hearlier hlater⟩
      · rintro rfl
        have hmay := (hwarning.mp hmem).1
        rw [hshare.mpr heq] at hmay
        cases hmay
      · rintro rfl
        obtain ⟨_, _, _, hsame, hlt', -⟩ := mem_sharedPins.mp ((mem_validate_iff htopic).mp hmem)
        obtain ⟨-, rfl, rfl⟩ := Diagnostic.sharedPin_inj hsame
        exact absurd (Std.TransCmp.lt_trans hlt hlt') (by simp [Std.ReflCmp.compare_self])
  · intro diagnostic hmem htopic
    obtain ⟨pin, earlier, later, rfl, -, hearlier, hlater, -⟩ :=
      mem_sharedPins.mp ((mem_validate_iff htopic).mp hmem)
    exact ⟨pin, earlier, later, rfl, hearlier, hlater⟩

end AvrSetup
