import AvrSetup.Session

/-!
# Which description a session uses

A description that is held stays in use until it is released, whatever takes its place meanwhile
(`Session.held_stays_in_use`). Whether it is still the newest one is decided by numbers alone,
since no number is given twice (`Session.holdsCurrent?_after_iff`).
-/

namespace AvrSetup.Session

/-- A change of a session. -/
inductive Change where
  /-- A newer description takes the place of the newest one. -/
  | replace (device : Device)
  /-- The newest description is held. -/
  | hold
  /-- No description is held any more. -/
  | release
  /-- There is another configuration. -/
  | load (configuration : Configuration)
  /-- The states of another configuration are put over those there are. -/
  | merge (configuration : Configuration)
  /-- There is another state for one peripheral. -/
  | put (peripheral : Peripheral) (state : State)

namespace Change

/-- The session after a change. -/
def apply (session : Session) : Change → Session
  | replace device => session.replace device
  | hold => session.hold
  | release => session.release
  | load configuration => session.load configuration
  | merge configuration => session.merge configuration
  | put peripheral state => session.put peripheral state

/-- The change does not touch the description that is held. -/
def keepsHeld : Change → Bool
  | hold | release => false
  | replace _ | load _ | merge _ | put .. => true

/-- The description that is the newest after the change, if it is another one. -/
def device? : Change → Option Device
  | replace device => some device
  | hold | release | load _ | merge _ | put .. => none

/-- The configuration after the change. -/
def configured (configuration : Configuration) : Change → Configuration
  | load other => other
  | merge other => configuration.overlay other
  | put peripheral state => configuration.insert peripheral state
  | replace _ | hold | release => configuration

end Change

/-- The session after some changes. -/
def after (session : Session) (changes : List Change) : Session :=
  changes.foldl Change.apply session

variable {session : Session} {change : Change} {changes : List Change}

/-! ## One change -/

theorem held_apply (h : change.keepsHeld = true) : (change.apply session).held = session.held := by
  cases change with
  | hold => cases h
  | release => cases h
  | replace device => rfl
  | load configuration => rfl
  | merge configuration => rfl
  | put peripheral state => rfl

theorem configuration_apply (session : Session) (change : Change) :
    (change.apply session).configuration = change.configured session.configuration := by
  cases change <;> rfl

/-- Another description has the next number. -/
theorem current_apply (session : Session) (change : Change) :
    (change.apply session).current =
      change.device?.elim session.current fun device => ⟨session.current.serial + 1, device⟩ := by
  cases change <;> rfl

/-! ## Some changes -/

/-- What is held stays held. -/
theorem held_after (h : ∀ change ∈ changes, change.keepsHeld = true) :
    (session.after changes).held = session.held := by
  induction changes generalizing session with
  | nil => rfl
  | cons change changes ih =>
    obtain ⟨hchange, hchanges⟩ := List.forall_mem_cons.mp h
    exact (ih hchanges).trans (held_apply hchange)

/-- Only some of the changes make up the configuration. -/
theorem configuration_after (session : Session) (changes : List Change) :
    (session.after changes).configuration =
      changes.foldl Change.configured session.configuration := by
  induction changes generalizing session with
  | nil => rfl
  | cons change changes ih =>
    rw [List.foldl_cons, ← configuration_apply]
    exact ih (change.apply session)

/-- The newest description is the last one that was brought, and the others before it are
counted. -/
theorem current_after (session : Session) (changes : List Change) :
    (session.after changes).current =
      ⟨session.current.serial + (changes.filterMap Change.device?).length,
        (changes.filterMap Change.device?).getLastD session.current.device⟩ := by
  induction changes generalizing session with
  | nil => rfl
  | cons change changes ih =>
    have hrest := ih (change.apply session)
    rw [current_apply] at hrest
    rw [List.filterMap_cons]
    cases hdevice : change.device? with
    | none =>
      rw [hdevice] at hrest
      exact hrest
    | some device =>
      rw [hdevice] at hrest
      rw [List.length_cons, List.getLastD_cons, Nat.add_comm _ 1, ← Nat.add_assoc]
      exact hrest

/-- A description that is held stays in use. Take the newest description, hold it, and let there be
any changes that neither release it nor hold another one. The configuration is still checked with
it, and code is still generated with it. It is the newest description still just if no other one
has been brought, not even an equal one. Once it is released, the last one that was brought is
used. -/
theorem held_stays_in_use (session : Session) (h : ∀ change ∈ changes, change.keepsHeld = true) :
    (session.hold.after changes).check =
        session.current.device.check (changes.foldl Change.configured session.configuration) ∧
    (∀ clock, (session.hold.after changes).generate clock =
        session.current.device.generate
          (changes.foldl Change.configured session.configuration) clock) ∧
    ((session.hold.after changes).holdsCurrent? = some true ↔
      changes.filterMap Change.device? = []) ∧
    (session.hold.after changes).release.device =
      (changes.filterMap Change.device?).getLastD session.current.device := by
  have hheld : (session.hold.after changes).held = some session.current := held_after h
  have hcurrent := current_after session.hold changes
  have hdevice : (session.hold.after changes).device = session.current.device := by
    rw [device, hheld, Option.getD_some]
  have hconfiguration := configuration_after session.hold changes
  refine ⟨?_, fun clock => ?_, ?_, congrArg Revision.device hcurrent⟩
  · rw [check, hdevice, hconfiguration]
    rfl
  · rw [generate, hdevice, hconfiguration]
    rfl
  · rw [holdsCurrent?, hheld, hcurrent, Option.map_some, Option.some.injEq, beq_iff_eq,
      ← List.length_eq_zero_iff]
    change session.current.serial = session.current.serial + _ ↔ _
    omega

/-! ## Numbers -/

/-- The numbers of descriptions say which came first, and no two of them have one number. -/
def IsNumbered (session : Session) : Prop :=
  ∀ held ∈ session.held, held.serial ≤ session.current.serial ∧
    (held.serial = session.current.serial → held = session.current)

theorem isNumbered_new (device : Device) : (new device).IsNumbered := by
  intro held hheld
  cases hheld

/-- A change gives no number twice. -/
theorem IsNumbered.apply (h : session.IsNumbered) (change : Change) :
    (change.apply session).IsNumbered := by
  intro held hheld
  cases change with
  | replace device =>
    have hle := (h held hheld).1
    have hlt : held.serial < session.current.serial + 1 := Nat.lt_succ_of_le hle
    exact ⟨Nat.le_of_lt hlt, fun heq => absurd heq (Nat.ne_of_lt hlt)⟩
  | hold =>
    cases hheld
    exact ⟨Nat.le_refl _, fun _ => rfl⟩
  | release => cases hheld
  | load configuration => exact h held hheld
  | merge configuration => exact h held hheld
  | put peripheral state => exact h held hheld

theorem IsNumbered.after (h : session.IsNumbered) (changes : List Change) :
    (session.after changes).IsNumbered := by
  induction changes generalizing session with
  | nil => exact h
  | cons change changes ih => exact ih (h.apply change)

/-- Numbers tell whether the newest description is the one that is held, after any changes of a new
session. -/
theorem holdsCurrent?_after_iff (device : Device) (changes : List Change) :
    ((new device).after changes).holdsCurrent? = some true ↔
      ((new device).after changes).held = some ((new device).after changes).current := by
  have hnumbered := (isNumbered_new device).after changes
  generalize (new device).after changes = session at hnumbered
  constructor
  · intro hsame
    obtain ⟨held, hheld, hserial⟩ := Option.map_eq_some_iff.mp hsame
    rw [hheld, (hnumbered held hheld).2 (beq_iff_eq.mp hserial)]
  · intro hheld
    rw [holdsCurrent?, hheld, Option.map_some, beq_self_eq_true]

end AvrSetup.Session
