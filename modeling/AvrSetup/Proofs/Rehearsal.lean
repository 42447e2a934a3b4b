import AvrSetup.Proofs.Delivery

/-!
# What a dry run says about the files it is given

A dry run reads what the other commands read first, and does nothing with it. Whether that can be
read is printed, but does not decide how the run exits: a dry run succeeds as soon as the files
are there (`rehearsal_told_by_output`). The commands that go on with what they read fail if it
cannot be read.
-/

namespace AvrSetup

namespace FileStore

/-- Every file that is given is there, even if it has no text. -/
def HasFiles (store : FileStore) (description configuration : Option String) : Prop :=
  (∀ path ∈ description, (store.fileOf? path).isSome = true) ∧
    ∀ path ∈ configuration, (store.fileOf? path).isSome = true

/-- Every file that is given is there, and says what it should. -/
def Loads (store : FileStore) (description configuration : Option String) : Prop :=
  (∀ path ∈ description, (store.device? (some path)).isSome = true) ∧
    ∀ path ∈ configuration, (store.configuration? path).isSome = true

/-- The device that the text of a file describes. -/
def deviceIn? (store : FileStore) (file : String) : Option Device :=
  (store.read file).toOption.bind fun text => (Device.parse text).toOption

/-- The configuration that the text of a file is. -/
def configurationIn? (store : FileStore) (file : String) : Option Configuration :=
  (store.read file).toOption.bind fun text => (Configuration.parse text).toOption

variable {store : FileStore} {description configuration : Option String}

/-- The device of a path is the one in the file that the path leads to. -/
theorem bind_deviceIn? (store : FileStore) (path : String) :
    (store.fileOf? path).bind store.deviceIn? = store.device? (some path) :=
  bind_textOf? path _

/-- The configuration of a path is the one in the file that the path leads to. -/
theorem bind_configurationIn? (store : FileStore) (path : String) :
    (store.fileOf? path).bind store.configurationIn? = store.configuration? path :=
  bind_textOf? path _

/-- Files have to be there to be read. -/
theorem Loads.hasFiles (h : store.Loads description configuration) :
    store.HasFiles description configuration := by
  obtain ⟨hdevice, hconfiguration⟩ := h
  simp only [← bind_deviceIn?, ← bind_configurationIn?] at hdevice hconfiguration
  constructor
  · intro path hpath
    exact Option.isSome_of_isSome_bind (hdevice path hpath)
  · intro path hpath
    exact Option.isSome_of_isSome_bind (hconfiguration path hpath)

end FileStore

/-! ## Reading what is given -/

section

variable {store : FileStore}

/-- A request that goes on without failing gives a value whenever it did before. -/
theorem Gives.map {ε α β : Type} {request : ExceptT ε (StateM FileStore) α} {value : Option α}
    (h : Gives request store value) (f : α → β) :
    Gives (f <$> request) store (value.map f) := by
  rw [map_eq_pure_bind, Option.map_eq_bind]
  exact Gives.bind h fun found => .pure (f found)

/-- A request for what may be given is made if it is given. -/
theorem Gives.mapM {ε α β : Type} {request : α → ExceptT ε (StateM FileStore) β}
    {f : α → Option β} (h : ∀ given, Gives (request given) store (f given)) (given? : Option α) :
    Gives (given?.mapM request) store (given?.mapM f) := by
  cases given? with
  | none => exact .pure none
  | some given => exact (h given).map some

theorem isSome_mapM_iff {α β : Type} {f : α → Option β} {given? : Option α} :
    (given?.mapM f).isSome = true ↔ ∀ given ∈ given?, (f given).isSome = true := by
  cases given? with
  | none => simp
  | some given => simp

/-- A rehearsal fails just if something that is given is not what it should be. -/
theorem gives_rehearse (store : FileStore) (device configuration : Option String) :
    Gives (rehearse device configuration) store
      ((device.mapM store.deviceIn?).bind fun _ =>
        (configuration.mapM store.configurationIn?).map fun _ => ()) := by
  have hrehearse : (rehearse device configuration :
      ExceptT RequestFailure (StateM FileStore) Unit) =
        device.mapM loadDevice >>= fun _ =>
          (fun _ => ()) <$> configuration.mapM loadConfiguration := by
    cases device <;> cases configuration <;> simp [rehearse]
  rw [hrehearse]
  apply Gives.bind (.mapM gives_loadDevice device)
  intro _
  exact (Gives.mapM gives_loadConfiguration configuration).map _

/-- Files have to be there for a dry run. -/
theorem hasFiles_iff {description configuration : Option String} :
    store.HasFiles description configuration ↔
      (description.mapM store.fileOf?).isSome = true ∧
        (configuration.mapM store.fileOf?).isSome = true := by
  simp only [isSome_mapM_iff]
  rfl

/-- To find something for what is given, and then something else for that, is to find it in two
steps. -/
theorem isSome_mapM_of_mapM {α β γ : Type} {f : α → Option β} {g : β → Option γ}
    {given? : Option α} {found? : Option β} (h : given?.mapM f = some found?) :
    (found?.mapM g).isSome = true ↔ ∀ given ∈ given?, ((f given).bind g).isSome = true := by
  rw [isSome_mapM_iff]
  cases given? with
  | none =>
    cases h
    simp
  | some given =>
    obtain ⟨found, hfound, rfl⟩ := Option.map_eq_some_iff.mp h
    simp [hfound]

/-- What is read from the files is what the paths stand for. -/
theorem loads_iff {description configuration device file : Option String}
    (hdevice : description.mapM store.fileOf? = some device)
    (hfile : configuration.mapM store.fileOf? = some file) :
    store.Loads description configuration ↔
      ((device.mapM store.deviceIn?).bind fun _ =>
        (file.mapM store.configurationIn?).map fun _ => ()).isSome = true := by
  simp only [FileStore.Loads, ← FileStore.bind_deviceIn?, ← FileStore.bind_configurationIn?,
    ← isSome_mapM_of_mapM hdevice, ← isSome_mapM_of_mapM hfile]
  cases device.mapM store.deviceIn? <;> simp

end

/-! ## Dry runs -/

/-- How a dry run goes on the files of a store. -/
inductive FileStore.Rehearses (store : FileStore) (description configuration : Option String) :
    Except Report Outcome → Prop
  /-- A file is missing. -/
  | missing (report : Report) (hmissing : ¬ store.HasFiles description configuration) :
    store.Rehearses description configuration (.error report)
  /-- A file does not say what it should. -/
  | unread (report : Report) (hfiles : store.HasFiles description configuration)
      (hunread : ¬ store.Loads description configuration) :
    store.Rehearses description configuration
      (.ok (.printed ("periphgen: exited unsuccessfully: " ++ report.text ++ "\n")))
  /-- All is well. -/
  | completed (hloads : store.Loads description configuration) :
    store.Rehearses description configuration
      (.ok (.printed "periphgen: dry run completed successfully\n"))

/-- A dry run goes one of these ways, and leaves the store alone. -/
theorem exists_rehearses (store : FileStore) (description configuration : Option String) :
    ∃ result, (runDryRun description configuration : ExceptT Report (StateM FileStore) Outcome)
      store = (result, store) ∧ store.Rehearses description configuration result := by
  have hlocated (given? : Option String) :
      Gives (given?.mapM existingFile : ExceptT Report (StateM FileStore) (Option String)) store
        (given?.mapM store.fileOf?) :=
    .mapM gives_existingFile given?
  have hlocatedDevice := hlocated description
  have hlocatedFile := hlocated configuration
  unfold runDryRun
  cases hdevice : description.mapM store.fileOf? with
  | none =>
    rw [hdevice] at hlocatedDevice
    obtain ⟨report, hfailed⟩ := hlocatedDevice.exists_eq_error
    refine ⟨.error report, bind_run_of_error hfailed _, .missing report ?_⟩
    simp [hasFiles_iff, hdevice]
  | some device =>
    rw [hdevice] at hlocatedDevice
    rw [bind_run_of_ok hlocatedDevice.eq_ok]
    cases hfile : configuration.mapM store.fileOf? with
    | none =>
      rw [hfile] at hlocatedFile
      obtain ⟨report, hfailed⟩ := hlocatedFile.exists_eq_error
      refine ⟨.error report, bind_run_of_error hfailed _, .missing report ?_⟩
      simp [hasFiles_iff, hfile]
    | some file =>
      rw [hfile] at hlocatedFile
      rw [bind_run_of_ok hlocatedFile.eq_ok]
      have hfiles : store.HasFiles description configuration := by
        simp [hasFiles_iff, hdevice, hfile]
      have hloads := loads_iff hdevice hfile
      obtain ⟨result, hrehearse, hresult⟩ := gives_rehearse store device file
      rw [← hresult] at hloads
      have hrun : (rehearse device file : ExceptT RequestFailure (StateM FileStore) Unit).run
          store = (result, store) := hrehearse
      rw [bind_run_of_ok (lift_run hrun)]
      cases result with
      | error failure => exact ⟨_, rfl, .unread _ hfiles (mt hloads.mp Bool.false_ne_true)⟩
      | ok done => exact ⟨_, rfl, .completed (hloads.mpr rfl)⟩

/-- What is printed tells whether all is well. -/
theorem printed_unread_ne_completed (report : Report) :
    Outcome.printed ("periphgen: exited unsuccessfully: " ++ report.text ++ "\n") ≠
      .printed "periphgen: dry run completed successfully\n" := by
  intro h
  have htexts := congrArg (fun outcome => outcome.output.toList.take 12) h
  simp only [Outcome.printed, String.toList_append, List.append_assoc] at htexts
  rw [List.take_append_of_le_length (by decide)] at htexts
  exact absurd htexts (by decide)

section

variable {arguments : List String} {description configuration : Option String}

/-- A command that reads the same files goes on with them just if they can be read. -/
theorem run_after_reading {command : Command} {path : String}
    {rest : Device → Configuration → StateM FileStore Outcome}
    (hparse : Invocation.parse arguments = .ok ⟨description, command⟩)
    (hcommand : command.afterReading? = some (path, rest)) (store : FileStore) :
    (store.Loads description (some path) → ∃ device setup,
      store.device? description = some device ∧ store.configuration? path = some setup ∧
        (run arguments : StateM FileStore Outcome) store = rest device setup store) ∧
    (¬ store.Loads description (some path) → ∃ report,
      (run arguments : StateM FileStore Outcome) store = (.failed report, store)) := by
  have hdescription : (store.device? description).isSome = true ↔
      ∀ file ∈ description, (store.device? (some file)).isSome = true := by
    cases description <;> simp [FileStore.device?]
  constructor
  · rintro ⟨hdevice, hconfiguration⟩
    obtain ⟨device, hdevice⟩ := Option.isSome_iff_exists.mp (hdescription.mpr hdevice)
    obtain ⟨setup, hsetup⟩ := Option.isSome_iff_exists.mp (hconfiguration path rfl)
    exact ⟨device, setup, hdevice, hsetup, run_of_input hparse hcommand hdevice hsetup⟩
  · intro hunread
    apply run_without_input hparse hcommand
    by_contra hboth
    rw [not_or, ← ne_eq, ← ne_eq, Option.ne_none_iff_isSome, Option.ne_none_iff_isSome] at hboth
    obtain ⟨hdevice, hsetup⟩ := hboth
    apply hunread
    refine ⟨hdescription.mp hdevice, ?_⟩
    intro file hfile
    obtain rfl := Option.mem_some_iff.mp hfile
    exact hsetup

end

/-- A dry run tells by what it prints whether the files that are given can be read, but not by how
it exits. Whatever the files hold, it changes none of them. It exits with success just if every
file that is given is there; if one of them has no text, or does not say what it should, this is
printed and nothing more. The other commands on the same files go on with what they have read just
if the dry run has printed that all is well, and fail otherwise. -/
theorem rehearsal_told_by_output {arguments : List String}
    {description configuration : Option String}
    (hparse : Invocation.parse arguments = .ok ⟨description, .dryRun configuration⟩)
    (store : FileStore) :
    ∃ outcome, (run arguments : StateM FileStore Outcome) store = (outcome, store) ∧
      (outcome.exitCode = 0 ↔ store.HasFiles description configuration) ∧
      (outcome = .printed "periphgen: dry run completed successfully\n" ↔
        store.Loads description configuration) ∧
      (store.HasFiles description configuration → ¬ store.Loads description configuration →
        ∃ report : Report, outcome =
          .printed ("periphgen: exited unsuccessfully: " ++ report.text ++ "\n")) ∧
      (¬ store.HasFiles description configuration → ∃ report, outcome = .failed report) ∧
      ∀ others command path rest, Invocation.parse others = .ok ⟨description, command⟩ →
        command.afterReading? = some (path, rest) → configuration = some path →
          (store.Loads description configuration → ∃ device setup,
            store.device? description = some device ∧ store.configuration? path = some setup ∧
              (run others : StateM FileStore Outcome) store = rest device setup store) ∧
          (¬ store.Loads description configuration → ∃ report,
            (run others : StateM FileStore Outcome) store = (.failed report, store)) := by
  obtain ⟨result, hattempt, hresult⟩ := exists_rehearses store description configuration
  have hothers (others : List String) (command : Command) (path : String)
      (rest : Device → Configuration → StateM FileStore Outcome)
      (hothers : Invocation.parse others = .ok ⟨description, command⟩)
      (hcommand : command.afterReading? = some (path, rest)) (hpath : configuration = some path) :=
    hpath ▸ run_after_reading hothers hcommand store
  refine ⟨.ofResult result, run_of_parse hparse hattempt, ?_⟩
  cases hresult with
  | missing report hmissing =>
    have hunread := mt FileStore.Loads.hasFiles hmissing
    refine ⟨iff_of_false Nat.one_ne_zero hmissing, iff_of_false ?_ hunread, ?_, ?_, hothers⟩
    · intro h
      cases congrArg Outcome.exitCode h
    · intro hfiles
      exact absurd hfiles hmissing
    · intro _
      exact ⟨report, rfl⟩
  | unread report hfiles hunread =>
    refine ⟨iff_of_true rfl hfiles, iff_of_false ?_ hunread, ?_, ?_, hothers⟩
    · exact printed_unread_ne_completed report
    · intro _ _
      exact ⟨report, rfl⟩
    · intro hmissing
      exact absurd hfiles hmissing
  | completed hloads =>
    refine ⟨iff_of_true rfl hloads.hasFiles, iff_of_true rfl hloads, ?_, ?_, hothers⟩
    · intro _ hunread
      exact absurd hloads hunread
    · intro hmissing
      exact absurd hloads.hasFiles hmissing

/-- Arguments that name the files of the watchdog. -/
def watchdogFiles (word : String) : List String :=
  [word, "--schema", "d.xml", "--config", "c.json"]

/-- For the watchdog all is well, and so a check goes on with what it has read. -/
theorem rehearsal_told_by_output_watchdog :
    Invocation.parse (watchdogFiles "dry-run") = .ok ⟨some "d.xml", .dryRun (some "c.json")⟩ ∧
      (run (watchdogFiles "dry-run") : StateM FileStore Outcome) watchdogStore =
        (.printed "periphgen: dry run completed successfully\n", watchdogStore) ∧
      (run (watchdogFiles "check") : StateM FileStore Outcome) watchdogStore =
        (checkOutcome (Device.watchdogDevice.check watchdogConfiguration) false,
          watchdogStore) := by
  have hparse : Invocation.parse (watchdogFiles "dry-run") =
      .ok ⟨some "d.xml", .dryRun (some "c.json")⟩ := by decide +kernel
  have hcheck : Invocation.parse (watchdogFiles "check") =
      .ok ⟨some "d.xml", .check "c.json" false⟩ := by decide +kernel
  have hloads : watchdogStore.Loads (some "d.xml") (some "c.json") := by
    constructor
    · rintro path ⟨⟩
      rw [device?_watchdogStore]
      rfl
    · rintro path ⟨⟩
      rw [configuration?_watchdogStore]
      rfl
  obtain ⟨outcome, hrun, -, hcompleted, -, -, hothers⟩ :=
    rehearsal_told_by_output hparse watchdogStore
  obtain ⟨device, setup, hdevice, hsetup, hafter⟩ :=
    (hothers _ _ _ _ hcheck rfl rfl).1 hloads
  cases hdevice.symm.trans device?_watchdogStore
  cases hsetup.symm.trans configuration?_watchdogStore
  exact ⟨hparse, hcompleted.mpr hloads ▸ hrun, hafter⟩

/-- A store with a configuration of a peripheral that no device has. -/
def unknownPeripheralStore : FileStore :=
  (FileStore.empty ["w"] ⟨0⟩).withFile "c.json" "\x7b\"usb\": \x7b\"enabled\": true\x7d\x7d"

/-- A dry run may succeed although the configuration cannot be read, and a check or generation of
the code would fail. -/
theorem rehearsal_succeeds_unread :
    ((run ["dry-run", "--config", "c.json"] : StateM FileStore Outcome)
        unknownPeripheralStore).1.exitCode = 0 ∧
      ¬ unknownPeripheralStore.Loads none (some "c.json") ∧
      ((run ["check", "--config", "c.json"] : StateM FileStore Outcome)
        unknownPeripheralStore).1.exitCode = 1 ∧
      ((run ["gen", "--config", "c.json"] : StateM FileStore Outcome)
        unknownPeripheralStore).1.exitCode = 1 := by
  refine ⟨by decide +kernel, ?_, by decide +kernel, by decide +kernel⟩
  rintro ⟨-, hconfiguration⟩
  exact absurd (hconfiguration "c.json" rfl) (by decide +kernel)

end AvrSetup
