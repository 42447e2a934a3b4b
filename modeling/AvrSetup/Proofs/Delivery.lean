import AvrSetup.CommandLine.Run
import AvrSetup.Proofs.Description
import AvrSetup.Proofs.Overlap
import AvrSetup.Proofs.Stores

/-!
# Code that is delivered as a whole or not at all

Code generation may be refused for many reasons, and a file of the code should never be left
beside an old one. This file follows a run that writes its code into a folder. As long as there
is no code to write (`FileStore.artifact?`), the run only looks at the store. Otherwise it writes
both files, and nothing else is changed but for the folders that have to be made
(`run_generate_delivers_or_fails`).
-/

namespace AvrSetup

/-! ## Requests to a store -/

section

variable {ε α β : Type} {store after : FileStore}

/-- An operation on the store is carried out as it is. -/
theorem lift_run {action : StateM FileStore α} {result : α} (h : action store = (result, after)) :
    (liftM action : ExceptT ε (StateM FileStore) α) store = (.ok result, after) := by
  simp only [liftM, monadLift, MonadLift.monadLift, ExceptT.lift, ExceptT.mk, Functor.map,
    StateT.map, h]
  rfl

/-- What follows a request that succeeds goes on with its value. -/
theorem bind_run_of_ok {request : ExceptT ε (StateM FileStore) α} {value : α}
    (h : request store = (.ok value, after)) (next : α → ExceptT ε (StateM FileStore) β) :
    (request >>= next) store = next value after := by
  simp only [bind, ExceptT.bind, ExceptT.mk, StateT.bind, h]
  rfl

/-- What follows a request that fails does not happen. -/
theorem bind_run_of_error {request : ExceptT ε (StateM FileStore) α} {failure : ε}
    (h : request store = (.error failure, after)) (next : α → ExceptT ε (StateM FileStore) β) :
    (request >>= next) store = (.error failure, after) := by
  simp only [bind, ExceptT.bind, ExceptT.mk, StateT.bind, h]
  rfl

end

/-- A request leaves a store alone. It gives a value, or fails if there is none. -/
def Gives {ε α : Type} (request : ExceptT ε (StateM FileStore) α) (store : FileStore)
    (value : Option α) : Prop :=
  ∃ result : Except ε α, request store = (result, store) ∧ result.toOption = value

namespace Gives

variable {ε α β : Type} {store : FileStore}

theorem pure (value : α) :
    Gives (Pure.pure value : ExceptT ε (StateM FileStore) α) store (some value) :=
  ⟨.ok value, rfl, rfl⟩

theorem throw (failure : ε) :
    Gives (MonadExcept.throw failure : ExceptT ε (StateM FileStore) α) store none :=
  ⟨.error failure, rfl, rfl⟩

/-- An operation that leaves the store alone always gives its result. -/
theorem lift {action : StateM FileStore α} {result : α} (h : action store = (result, store)) :
    Gives (liftM action : ExceptT ε (StateM FileStore) α) store (some result) :=
  ⟨.ok result, lift_run h, rfl⟩

/-- A request that gives a value succeeds. -/
theorem eq_ok {request : ExceptT ε (StateM FileStore) α} {value : α}
    (h : Gives request store (some value)) : request store = (.ok value, store) := by
  obtain ⟨result, hrequest, hvalue⟩ := h
  cases result with
  | error failure => cases hvalue
  | ok found =>
    cases hvalue
    exact hrequest

/-- A request that gives no value fails. -/
theorem exists_eq_error {request : ExceptT ε (StateM FileStore) α}
    (h : Gives request store none) : ∃ failure, request store = (.error failure, store) := by
  obtain ⟨result, hrequest, hvalue⟩ := h
  cases result with
  | error failure => exact ⟨failure, hrequest⟩
  | ok found => cases hvalue

/-- A second request is made with the value that the first one gives. -/
theorem bind {request : ExceptT ε (StateM FileStore) α} {value : Option α}
    {next : α → ExceptT ε (StateM FileStore) β} {f : α → Option β}
    (h : Gives request store value) (hnext : ∀ found, Gives (next found) store (f found)) :
    Gives (request >>= next) store (value.bind f) := by
  cases value with
  | none =>
    obtain ⟨failure, hfailed⟩ := h.exists_eq_error
    exact ⟨.error failure, bind_run_of_error hfailed next, rfl⟩
  | some found =>
    obtain ⟨result, hresult, hvalue⟩ := hnext found
    exact ⟨result, (bind_run_of_ok h.eq_ok next).trans hresult, hvalue⟩

/-- A request that is part of something wider gives the same value. -/
theorem within {request : ExceptT RequestFailure (StateM FileStore) α} {value : Option α}
    (h : Gives request store value) (message : String) :
    Gives (AvrSetup.within message request) store value := by
  obtain ⟨result, hrequest, rfl⟩ := h
  apply Gives.bind (f := Except.toOption) (lift hrequest)
  intro found
  cases found with
  | error failure => exact .throw _
  | ok value => exact .pure value

end Gives

namespace FileStore

variable {store : FileStore}

/-- The path of the file itself that a path leads to. -/
def fileOf? (store : FileStore) (path : String) : Option String :=
  (store.placeOf path).toOption.bind fun place =>
    if store.isFile place.path then some place.path else none

/-- The text of the file that a path leads to. The path is resolved, and then the file is opened
where it is. -/
def textOf? (store : FileStore) (path : String) : Option String :=
  (store.placeOf path).toOption.bind fun place => (store.read place.path).toOption

/-- The device that a file describes, or the one that is built in. -/
def device? (store : FileStore) : Option String → Option Device
  | none => some Atmega328p.device
  | some path => (store.textOf? path).bind fun text => (Device.parse text).toOption

/-- The configuration that a file holds. -/
def configuration? (store : FileStore) (path : String) : Option Configuration :=
  (store.textOf? path).bind fun text => (Configuration.parse text).toOption

/-- The code that is generated on request for a configuration of a device. There is none if there
are conflicts that are not accepted. -/
def code? (store : FileStore) (device : Device) (configuration : Configuration)
    (request : GenerationRequest) : Option Artifact :=
  if request.allowConflicts = false ∧ device.conflicts configuration ≠ [] then none
  else (device.generate configuration request.clock).toOption.map fun artifact =>
    if request.stamp then artifact.stamped store.moment.text else artifact

/-- The code that a request asks for. There is none either if one of the files cannot be read or
does not say what it should. -/
def artifact? (store : FileStore) (description : Option String) (request : GenerationRequest) :
    Option Artifact :=
  (store.device? description).bind fun device =>
    (store.configuration? request.configuration).bind fun configuration =>
      store.code? device configuration request

/-- What can be read is a file. -/
theorem isFile_of_read {path text : String} (h : store.read path = .ok text) :
    store.isFile path = true := by
  unfold read at h
  split at h
  · cases h
  · obtain ⟨place, hplace, hfound⟩ := bind_eq_ok_iff.mp h
    unfold isFile
    rw [hplace]
    cases hget : store.files.get? place with
    | none =>
      rw [hget] at hfound
      cases hfound
    | some found =>
      change store.files.contains place = true
      rw [SortedMap.contains, hget]
      rfl

end FileStore

/-! ## Reading the input -/

section

variable {store : FileStore}

/-- A path that leads to a file gives the path of the file itself. -/
theorem gives_existingFile (path : String) :
    Gives (existingFile path) store (store.fileOf? path) := by
  have hlocate : (FileAccess.locate path : StateM FileStore _) store =
      ((store.placeOf path).map Place.path, store) := rfl
  have hresolved : store.fileOf? path =
      (some ((store.placeOf path).map Place.path)).bind fun located =>
        located.toOption.bind fun file => if store.isFile file then some file else none := by
    unfold FileStore.fileOf?
    cases store.placeOf path <;> rfl
  rw [hresolved]
  apply Gives.bind (.lift hlocate)
  intro located
  cases located with
  | error failure => exact .throw _
  | ok file =>
    have hfile : (FileAccess.isFile file : StateM FileStore Bool) store =
        (store.isFile file, store) := rfl
    apply Gives.bind (f := fun isFile => if isFile then some file else none) (.lift hfile)
    intro isFile
    cases isFile with
    | true => exact .pure file
    | false => exact .throw _

/-- The text of a file is read if there is one. -/
theorem gives_readText (file : String) :
    Gives (readText file) store (store.read file).toOption := by
  have hread : (FileAccess.read file : StateM FileStore _) store = (store.read file, store) := rfl
  apply Gives.bind (f := Except.toOption) (.lift hread)
  intro found
  cases found with
  | ok text => exact .pure text
  | error failure => cases failure <;> exact .throw _

/-- A device is loaded if the text of the file describes one. -/
theorem gives_loadDevice (file : String) :
    Gives (loadDevice file) store
      ((store.read file).toOption.bind fun text => (Device.parse text).toOption) := by
  apply Gives.bind (gives_readText file)
  intro text
  cases Device.parse text with
  | ok device => exact .pure device
  | error fault => exact .throw _

/-- A configuration is loaded if the text of the file is one. -/
theorem gives_loadConfiguration (file : String) :
    Gives (loadConfiguration file) store
      ((store.read file).toOption.bind fun text => (Configuration.parse text).toOption) := by
  apply Gives.bind (gives_readText file)
  intro text
  cases Configuration.parse text with
  | ok configuration => exact .pure configuration
  | error failure => exact .throw _

/-- What is loaded from the file that a path leads to is made of its text. -/
theorem bind_textOf? {α : Type} (path : String) (f : String → Option α) :
    ((store.fileOf? path).bind fun file => (store.read file).toOption.bind f) =
      (store.textOf? path).bind f := by
  unfold FileStore.fileOf? FileStore.textOf?
  cases store.placeOf path with
  | error failure => rfl
  | ok place =>
    simp only [Except.toOption, Option.bind_some]
    cases hread : store.read place.path with
    | error failure => cases store.isFile place.path <;> simp [hread]
    | ok text => simp [FileStore.isFile_of_read hread, hread]

/-- The requested device is the one that the store gives. -/
theorem gives_requestedDevice (store : FileStore) (description : Option String) :
    Gives (requestedDevice description) store (store.device? description) := by
  cases description with
  | none => exact .pure Atmega328p.device
  | some path =>
    change Gives (requestedDevice (some path)) store
      ((store.textOf? path).bind fun text => (Device.parse text).toOption)
    rw [← bind_textOf?]
    apply Gives.bind (gives_existingFile path)
    intro file
    exact (gives_loadDevice file).within _

/-- The requested configuration is the one that the store gives. -/
theorem gives_requestedConfiguration (store : FileStore) (path : String) :
    Gives (requestedConfiguration path) store (store.configuration? path) := by
  unfold FileStore.configuration?
  rw [← bind_textOf?]
  apply Gives.bind (gives_existingFile path)
  intro file
  exact (gives_loadConfiguration file).within _

end

/-! ## Generating the code -/

/-- As many of the remarks are about conflicts as there are conflicts. -/
theorem Device.countP_check_conflict (device : Device) (configuration : Configuration) :
    ((device.check configuration).countP fun diagnostic => diagnostic.topic == .conflict) =
      (device.conflicts configuration).length := by
  have hconflicts : ((device.conflicts configuration).map Conflict.toDiagnostic).countP
      (fun diagnostic => diagnostic.topic == .conflict) =
        (device.conflicts configuration).length := by
    rw [List.countP_map]
    exact List.countP_eq_length.mpr fun _ _ => rfl
  have hother : (device.validate configuration).countP
      (fun diagnostic => diagnostic.topic == .conflict) = 0 := by
    apply List.countP_eq_zero.mpr
    intro diagnostic hmem hconflict
    have htopic : diagnostic.topic = .conflict := beq_iff_eq.mp hconflict
    rcases List.mem_append.mp hmem with hproblem | hshared
    · exact (topic_of_mem_problems hproblem).2 htopic
    · obtain ⟨_, _, _, rfl, -⟩ := mem_sharedPins.mp hshared
      cases htopic
  rw [check, List.countP_append, hconflicts, hother, Nat.add_zero]

section

variable {store : FileStore} {device : Device} {configuration : Configuration}
  {request : GenerationRequest} {folder : String}

/-- The code is stamped with the present moment if that is asked for. -/
theorem stampedIf_run (stamp : Bool) (artifact : Artifact) :
    (stampedIf stamp artifact : ExceptT Report (StateM FileStore) Artifact) store =
      (.ok (if stamp then artifact.stamped store.moment.text else artifact), store) := by
  cases stamp <;> rfl

/-- The number of conflicts decides whether the code is refused for them. -/
theorem isRefused_iff :
    (!request.allowConflicts && (device.conflicts configuration).length != 0) = true ↔
      request.allowConflicts = false ∧ device.conflicts configuration ≠ [] := by
  rw [Bool.and_eq_true, Bool.not_eq_true', bne_iff_ne, ne_eq, ne_eq, List.length_eq_zero_iff]

/-- Without code there is nothing to deliver, and the store stays as it is. -/
theorem deliver_of_none (h : store.code? device configuration request = none) :
    ∃ report, (deliver device configuration (device.check configuration) request :
      ExceptT Report (StateM FileStore) Outcome) store = (.error report, store) := by
  unfold FileStore.code? at h
  unfold deliver
  rw [Device.countP_check_conflict]
  dsimp only
  by_cases hrefused : request.allowConflicts = false ∧ device.conflicts configuration ≠ []
  · rw [if_pos (isRefused_iff.mpr hrefused)]
    exact ⟨_, bind_run_of_error rfl _⟩
  · rw [if_neg hrefused] at h
    rw [if_neg (mt isRefused_iff.mp hrefused)]
    cases hgenerate : device.generate configuration request.clock with
    | error failure => exact ⟨_, rfl⟩
    | ok artifact =>
      rw [hgenerate] at h
      cases h

/-- If there is code, its files are written into the folder. -/
theorem deliver_of_some {artifact : Artifact} (hjson : request.json = false)
    (hfolder : request.folder = some folder)
    (h : store.code? device configuration request = some artifact) :
    (deliver device configuration (device.check configuration) request :
        ExceptT Report (StateM FileStore) Outcome) store =
      (writeArtifact folder artifact >>= fun _ => pure (.printed "") :
        ExceptT Report (StateM FileStore) Outcome) store := by
  unfold FileStore.code? at h
  unfold deliver
  rw [Device.countP_check_conflict]
  dsimp only
  by_cases hrefused : request.allowConflicts = false ∧ device.conflicts configuration ≠ []
  · rw [if_pos hrefused] at h
    cases h
  · rw [if_neg hrefused] at h
    rw [if_neg (mt isRefused_iff.mp hrefused)]
    cases hgenerate : device.generate configuration request.clock with
    | error failure =>
      rw [hgenerate] at h
      cases h
    | ok generated =>
      rw [hgenerate] at h
      cases h
      dsimp only
      rw [bind_run_of_ok (stampedIf_run request.stamp generated), hjson, hfolder]
      rfl

/-- Where there are no conflicts, it does not matter whether they are accepted. -/
theorem deliver_allowing (hfree : device.conflicts configuration = []) :
    (deliver device configuration (device.check configuration)
        { request with allowConflicts := true } : ExceptT Report (StateM FileStore) Outcome) =
      deliver device configuration (device.check configuration) request := by
  unfold deliver
  rw [Device.countP_check_conflict, hfree]
  simp only [List.length_nil, bne_self_eq_false, Bool.and_false]

/-! ## Writing the files -/

/-- A folder can be created, and files can be written into it. -/
structure FileStore.Takes (store : FileStore) (folder : String) (files : List (String × String)) :
    Prop where
  /-- The folder can be created. -/
  createFolders : (store.createFolders folder).2 = .ok ()
  /-- Each of the files can be written then. -/
  write : ∀ file ∈ files, ∃ next,
    (store.createFolders folder).1.write (inFolder folder file.1) file.2 = .ok next

/-- What has become of a store when the code has been written into a folder. -/
structure FileStore.Received (store after : FileStore) (folder : String) (artifact : Artifact) :
    Prop where
  /-- The header holds the prototypes. -/
  read_header : after.read (inFolder folder Artifact.headerName) = .ok artifact.header
  /-- The source file holds the bodies. -/
  read_source : after.read (inFolder folder Artifact.sourceName) = .ok artifact.source
  /-- No other file is changed, written or lost. -/
  get?_other : ∃ place, after.placeOf folder = .ok place ∧ ∀ other,
    other ≠ place ++ [Artifact.headerName] → other ≠ place ++ [Artifact.sourceName] →
      after.files.get? other = store.files.get? other
  /-- No folder is lost. -/
  folders : ∀ place, store.folders.contains place = true → after.folders.contains place = true
  /-- New folders are on the way to the folder of the code. -/
  on_way : ∀ place, after.folders.contains place = true → store.folders.contains place = true ∨
    ∃ way, way <+: (pathNames folder).filter (· ≠ "") ∧
      after.walk (store.start folder) way = .ok place
  /-- Paths begin where they did. -/
  workingFolder_eq : after.workingFolder = store.workingFolder
  /-- No time passes. -/
  moment_eq : after.moment = store.moment

/-- Writing a file that can be written leads to the store with the file. -/
theorem writeFile_run {path text : String} {after : FileStore}
    (h : store.write path text = .ok after) :
    (writeFile path text : ExceptT Report (StateM FileStore) Unit) store = (.ok (), after) := by
  have hwrite : (FileAccess.write path text : StateM FileStore (Except FileFailure Unit)) store =
      (.ok (), after) := by
    simp only [FileAccess.write, h]
  exact bind_run_of_ok (lift_run hwrite) _

/-- Creating a folder that can be created leads to the store with the folder. -/
theorem createFolders_run (h : (store.createFolders folder).2 = .ok ()) :
    (liftM (FileAccess.createFolders folder : StateM FileStore (Except FileFailure Unit)) :
        ExceptT Report (StateM FileStore) (Except FileFailure Unit)) store =
      (.ok (.ok ()), (store.createFolders folder).1) := by
  apply lift_run
  change ((store.createFolders folder).2, (store.createFolders folder).1) = _
  rw [h]

theorem slash_notMem_headerName : '/' ∉ Artifact.headerName.toList := by decide

theorem slash_notMem_sourceName : '/' ∉ Artifact.sourceName.toList := by decide

/-- The files of the code are at different places. -/
theorem header_ne_source (around : Place) :
    around ++ [Artifact.headerName] ≠ around ++ [Artifact.sourceName] := by
  intro heq
  have hnames := List.append_cancel_left heq
  revert hnames
  decide

/-- Two files that can be written one after the other are written. -/
theorem writeArtifact_run {artifact : Artifact} {made first second : FileStore}
    (hfolder : (store.createFolders folder).2 = .ok ())
    (hmade : (store.createFolders folder).1 = made)
    (hheader : made.write (inFolder folder Artifact.headerName) artifact.header = .ok first)
    (hsource : first.write (inFolder folder Artifact.sourceName) artifact.source = .ok second) :
    (writeArtifact folder artifact : ExceptT Report (StateM FileStore) Unit) store =
      (.ok (), second) := by
  have hfolders := createFolders_run hfolder
  rw [hmade] at hfolders
  unfold writeArtifact
  rw [bind_run_of_ok hfolders]
  simp only [Artifact.files, List.forIn_cons, List.forIn_nil, bind_assoc, pure_bind]
  rw [bind_run_of_ok (writeFile_run hheader), bind_run_of_ok (writeFile_run hsource)]
  rfl

/-- The store with both files of the code in a folder that has been made for them. -/
theorem received_withText {artifact : Artifact} {made : FileStore} {around : Place}
    (hway : store.MakesWay made (store.start folder) ((pathNames folder).filter (· ≠ "")))
    (hwalk : made.walk (made.start folder) (folderNames folder) = .ok around)
    (hheader : made.WritesAt (inFolder folder Artifact.headerName) around Artifact.headerName)
    (hsource : made.WritesAt (inFolder folder Artifact.sourceName) around Artifact.sourceName) :
    store.Received ((made.withText (around ++ [Artifact.headerName]) artifact.header).withText
      (around ++ [Artifact.sourceName]) artifact.source) folder artifact := by
  generalize hfirst : made.withText (around ++ [Artifact.headerName]) artifact.header = first
  generalize hafter : first.withText (around ++ [Artifact.sourceName]) artifact.source = after
  have hwithinFirst : made.IsWithin first := hfirst ▸ FileStore.isWithin_withText made _ _
  have hwithinAfter : first.IsWithin after := hafter ▸ FileStore.isWithin_withText first _ _
  have hwithin := hwithinFirst.trans hwithinAfter
  have hne := header_ne_source around
  have hfiles (place : Place) : after.files.get? place =
      if place = around ++ [Artifact.sourceName] then some (some artifact.source)
      else if place = around ++ [Artifact.headerName] then some (some artifact.header)
      else store.files.get? place := by
    rw [← hafter, FileStore.get?_withText, ← hfirst, FileStore.get?_withText, hway.files_eq]
  have hfolders : after.folders = made.folders := by
    rw [← hafter, ← hfirst]
    rfl
  have hplace : after.placeOf folder = .ok around := by
    apply FileStore.placeOf_of_folderNames (hwithin.isFolder hheader.isFolder_around)
    rw [hwithin.start_eq]
    exact FileStore.walk_mono hwithin hwalk
  constructor
  · apply FileStore.read_of_writesAt hheader hwithin
    rw [hfiles, if_neg hne, if_pos rfl]
  · apply FileStore.read_of_writesAt hsource hwithin
    rw [hfiles, if_pos rfl]
  · refine ⟨around, hplace, ?_⟩
    intro other hotherHeader hotherSource
    rw [hfiles, if_neg hotherSource, if_neg hotherHeader]
  · intro place hold
    rw [hfolders]
    exact hway.isWithin.folders place hold
  · intro place hnew
    rw [hfolders] at hnew
    rcases hway.on_way place hnew with hold | ⟨way, hprefix, hled⟩
    · exact .inl hold
    · exact .inr ⟨way, hprefix, FileStore.walk_mono hwithin hled⟩
  · exact hwithin.workingFolder.trans hway.isWithin.workingFolder
  · rw [← hafter, ← hfirst]
    exact hway.moment_eq

/-- Code is written into a folder that takes it. -/
theorem exists_received {artifact : Artifact} (h : store.Takes folder artifact.files) :
    ∃ after, (writeArtifact folder artifact : ExceptT Report (StateM FileStore) Unit) store =
      (.ok (), after) ∧ store.Received after folder artifact := by
  have hway := store.makesWay_createFolders folder
  generalize hmade : (store.createFolders folder).1 = made at hway
  obtain ⟨first, hheader⟩ : ∃ first,
      made.write (inFolder folder Artifact.headerName) artifact.header = .ok first :=
    hmade ▸ h.write (Artifact.headerName, artifact.header) List.mem_cons_self
  obtain ⟨second, hsource⟩ : ∃ second,
      made.write (inFolder folder Artifact.sourceName) artifact.source = .ok second :=
    hmade ▸ h.write (Artifact.sourceName, artifact.source)
      (List.mem_cons_of_mem _ (List.mem_singleton.mpr rfl))
  obtain ⟨around, hwalk, hwritesHeader, rfl⟩ :=
    FileStore.exists_writesAt_inFolder slash_notMem_headerName hheader
  obtain ⟨around', hwalk', hwritesSource, -⟩ :=
    FileStore.exists_writesAt_inFolder slash_notMem_sourceName hsource
  -- Both files are in the folder that the path leads to.
  obtain rfl : around' = around := Except.ok.inj (hwalk'.symm.trans hwalk)
  have hbehind : (made.withText (around' ++ [Artifact.headerName]) artifact.header).write
      (inFolder folder Artifact.sourceName) artifact.source =
        .ok ((made.withText (around' ++ [Artifact.headerName]) artifact.header).withText
          (around' ++ [Artifact.sourceName]) artifact.source) :=
    FileStore.write_eq_ok_iff.mpr ⟨around', _, hwritesSource.withText _ _, rfl⟩
  exact ⟨_, writeArtifact_run h.createFolders hmade hheader hbehind,
    received_withText hway hwalk hwritesHeader hwritesSource⟩

end

/-! ## Runs -/

/-- Code that is printed for other programs to read is not written into a folder. -/
theorem json_eq_false_of_ofOptions {given : GivenOptions} {request : GenerationRequest}
    {folder : String} (h : GenerationRequest.ofOptions given = .ok request)
    (hfolder : request.folder = some folder) : request.json = false := by
  simp only [GenerationRequest.ofOptions, bind_eq_ok_iff, unless_eq_ok_iff] at h
  obtain ⟨_, -, given, -, _, -, _, -, _, -, _, -, json, -, hexclusive, heq⟩ := h
  cases heq
  dsimp only at hfolder ⊢
  rw [hfolder, Option.isSome_some, Bool.and_true, Bool.not_eq_true] at hexclusive
  exact hexclusive

/-- The request of a command for code comes from its options. -/
theorem exists_ofOptions {word : String} {given : GivenOptions} {request : GenerationRequest}
    (h : Command.ofOptions word given = .ok (.generate request)) :
    GenerationRequest.ofOptions given = .ok request := by
  unfold Command.ofOptions at h
  split at h
  · obtain ⟨_, -, heq⟩ := bind_eq_ok_iff.mp h
    cases heq
  · obtain ⟨_, -, h⟩ := bind_eq_ok_iff.mp h
    dsimp only at h
    split at h <;> cases h
  · obtain ⟨_, -, h⟩ := bind_eq_ok_iff.mp h
    obtain ⟨_, -, heq⟩ := bind_eq_ok_iff.mp h
    cases heq
  · obtain ⟨found, hfound, heq⟩ := bind_eq_ok_iff.mp h
    cases heq
    exact hfound
  · cases h

/-- A run that writes its code into a folder does not print it. -/
theorem json_eq_false_of_parse {arguments : List String} {description : Option String}
    {request : GenerationRequest} {folder : String}
    (hparse : Invocation.parse arguments = .ok ⟨description, .generate request⟩)
    (hfolder : request.folder = some folder) : request.json = false := by
  unfold Invocation.parse at hparse
  obtain ⟨⟨before, rest⟩, -, h⟩ := bind_eq_ok_iff.mp hparse
  dsimp only at h
  split at h
  · cases h
  · split at h
    · cases h
    · obtain ⟨⟨given, left⟩, -, h⟩ := bind_eq_ok_iff.mp h
      dsimp only at h
      split at h
      · cases h
      · obtain ⟨command, hcommand, h⟩ := bind_eq_ok_iff.mp h
        obtain ⟨_, -, h⟩ := bind_eq_ok_iff.mp h
        obtain ⟨_, -, heq⟩ := bind_eq_ok_iff.mp h
        cases heq
        exact json_eq_false_of_ofOptions (exists_ofOptions hcommand) hfolder

section

variable {store after : FileStore}

/-- How a run ends that is attempted with a result. -/
def Outcome.ofResult : Except Report Outcome → Outcome
  | .ok outcome => outcome
  | .error report => .failed report

/-- A run ends as its attempt does. -/
theorem ofAttempt_run {attempt : ExceptT Report (StateM FileStore) Outcome}
    {result : Except Report Outcome} (h : attempt store = (result, after)) :
    Outcome.ofAttempt attempt store = (.ofResult result, after) := by
  unfold Outcome.ofAttempt
  simp only [bind, StateT.bind, ExceptT.run, h]
  cases result <;> rfl

variable {arguments : List String} {description : Option String} {request : GenerationRequest}
  {device : Device} {configuration : Configuration} {result : Except Report Outcome}

/-- The remarks that are printed first do not change how code generation ends. -/
theorem exists_exitCode_runGenerate
    (h : (deliver device configuration (device.check configuration) request :
      ExceptT Report (StateM FileStore) Outcome) store = (result, after)) :
    ∃ outcome, (runGenerate device configuration request : StateM FileStore Outcome) store =
      (outcome, after) ∧ outcome.exitCode = (Outcome.ofResult result).exitCode := by
  have hattempt := ofAttempt_run h
  unfold runGenerate
  simp only [bind, StateT.bind, hattempt]
  exact ⟨_, rfl, rfl⟩

/-- The arguments say what is attempted. -/
theorem run_of_parse {invocation : Invocation}
    (hparse : Invocation.parse arguments = .ok invocation)
    (h : (invocation.attempt : ExceptT Report (StateM FileStore) Outcome) store =
      (result, after)) :
    (run arguments : StateM FileStore Outcome) store = (.ofResult result, after) := by
  unfold run
  rw [hparse]
  exact ofAttempt_run h

/-- What a command does with a device and a configuration, if it is one that reads both: the path
to the configuration, and what follows. -/
def Command.afterReading? :
    Command → Option (String × (Device → Configuration → StateM FileStore Outcome))
  | .check path json => some (path, fun device configuration =>
    pure (checkOutcome (device.check configuration) json))
  | .generate request => some (request.configuration, fun device configuration =>
    runGenerate device configuration request)
  | .dryRun _ => none
  | .listPeripherals _ => none

variable {command : Command} {path : String}
  {rest : Device → Configuration → StateM FileStore Outcome}

/-- Such a command reads the device and then the configuration. -/
theorem attempt_of_afterReading? (description : Option String)
    (hcommand : command.afterReading? = some (path, rest)) :
    (Invocation.attempt ⟨description, command⟩ : ExceptT Report (StateM FileStore) Outcome) =
      requestedDevice description >>= fun device =>
        requestedConfiguration path >>= fun configuration =>
          liftM (rest device configuration) := by
  cases command with
  | check file json =>
    cases hcommand
    rfl
  | generate request =>
    cases hcommand
    rfl
  | dryRun file => cases hcommand
  | listPeripherals sorting => cases hcommand

/-- Without a device or without a configuration, the run fails and changes nothing. -/
theorem run_without_input (hparse : Invocation.parse arguments = .ok ⟨description, command⟩)
    (hcommand : command.afterReading? = some (path, rest))
    (hinput : store.device? description = none ∨ store.configuration? path = none) :
    ∃ report, (run arguments : StateM FileStore Outcome) store = (.failed report, store) := by
  have hrequestedDevice := gives_requestedDevice store description
  have hrequestedConfiguration := gives_requestedConfiguration store path
  obtain ⟨report, hattempt⟩ : ∃ report, (Invocation.attempt ⟨description, command⟩ :
      ExceptT Report (StateM FileStore) Outcome) store = (.error report, store) := by
    rw [attempt_of_afterReading? description hcommand]
    cases hdevice : store.device? description with
    | none =>
      rw [hdevice] at hrequestedDevice
      obtain ⟨report, hfailed⟩ := hrequestedDevice.exists_eq_error
      exact ⟨report, bind_run_of_error hfailed _⟩
    | some device =>
      rw [hdevice] at hrequestedDevice
      rw [hinput.resolve_left (by simp [hdevice])] at hrequestedConfiguration
      rw [bind_run_of_ok hrequestedDevice.eq_ok]
      obtain ⟨report, hfailed⟩ := hrequestedConfiguration.exists_eq_error
      exact ⟨report, bind_run_of_error hfailed _⟩
  exact ⟨report, run_of_parse hparse hattempt⟩

/-- With a device and a configuration, the run is all about what follows. -/
theorem run_of_input (hparse : Invocation.parse arguments = .ok ⟨description, command⟩)
    (hcommand : command.afterReading? = some (path, rest))
    (hdevice : store.device? description = some device)
    (hconfiguration : store.configuration? path = some configuration) :
    (run arguments : StateM FileStore Outcome) store = rest device configuration store := by
  have hrequestedDevice := gives_requestedDevice store description
  have hrequestedConfiguration := gives_requestedConfiguration store path
  rw [hdevice] at hrequestedDevice
  rw [hconfiguration] at hrequestedConfiguration
  obtain ⟨outcome, after, hrest⟩ :
      ∃ outcome after, rest device configuration store = (outcome, after) := ⟨_, _, rfl⟩
  have hattempt : (Invocation.attempt ⟨description, command⟩ :
      ExceptT Report (StateM FileStore) Outcome) store = (.ok outcome, after) := by
    rw [attempt_of_afterReading? description hcommand, bind_run_of_ok hrequestedDevice.eq_ok,
      bind_run_of_ok hrequestedConfiguration.eq_ok]
    exact lift_run hrest
  rw [hrest, run_of_parse hparse hattempt]
  rfl

/-- Without code to write, the run fails and changes nothing. -/
theorem run_without_artifact
    (hparse : Invocation.parse arguments = .ok ⟨description, .generate request⟩)
    (hnone : store.artifact? description request = none) :
    ∃ outcome, (run arguments : StateM FileStore Outcome) store = (outcome, store) ∧
      outcome.exitCode = 1 := by
  unfold FileStore.artifact? at hnone
  cases hdevice : store.device? description with
  | none =>
    obtain ⟨report, hrun⟩ := run_without_input hparse rfl (.inl hdevice)
    exact ⟨_, hrun, rfl⟩
  | some device =>
    cases hconfiguration : store.configuration? request.configuration with
    | none =>
      obtain ⟨report, hrun⟩ := run_without_input hparse rfl (.inr hconfiguration)
      exact ⟨_, hrun, rfl⟩
    | some configuration =>
      rw [hdevice, hconfiguration, Option.bind_some, Option.bind_some] at hnone
      obtain ⟨report, hdeliver⟩ := deliver_of_none hnone
      rw [run_of_input hparse rfl hdevice hconfiguration]
      exact exists_exitCode_runGenerate hdeliver

/-- Code that the store takes is delivered. -/
theorem run_with_artifact {folder : String} {artifact : Artifact}
    (hparse : Invocation.parse arguments = .ok ⟨description, .generate request⟩)
    (hfolder : request.folder = some folder)
    (hsome : store.artifact? description request = some artifact)
    (htakes : store.Takes folder artifact.files) :
    ∃ outcome after, (run arguments : StateM FileStore Outcome) store = (outcome, after) ∧
      outcome.exitCode = 0 ∧ store.Received after folder artifact := by
  obtain ⟨device, hdevice, hrest⟩ := Option.bind_eq_some_iff.mp hsome
  obtain ⟨configuration, hconfiguration, hcode⟩ := Option.bind_eq_some_iff.mp hrest
  obtain ⟨after, hwrite, hreceived⟩ := exists_received htakes
  have hdeliver : (deliver device configuration (device.check configuration) request :
      ExceptT Report (StateM FileStore) Outcome) store = (.ok (.printed ""), after) := by
    rw [deliver_of_some (json_eq_false_of_parse hparse hfolder) hfolder hcode,
      bind_run_of_ok hwrite]
    rfl
  obtain ⟨outcome, hgenerate, hexit⟩ := exists_exitCode_runGenerate hdeliver
  rw [run_of_input hparse rfl hdevice hconfiguration]
  exact ⟨outcome, after, hgenerate, hexit, hreceived⟩

/-- A run that succeeds although it denies conflicts does the same when it accepts them. -/
theorem run_allowing {others : List String}
    (hparse : Invocation.parse arguments = .ok ⟨description, .generate request⟩)
    (hothers : Invocation.parse others =
      .ok ⟨description, .generate { request with allowConflicts := true }⟩)
    (hdenies : request.allowConflicts = false)
    (hexit : ((run arguments : StateM FileStore Outcome) store).1.exitCode = 0) :
    (run others : StateM FileStore Outcome) store =
      (run arguments : StateM FileStore Outcome) store := by
  cases hartifact : store.artifact? description request with
  | none =>
    obtain ⟨outcome, hrun, hfailed⟩ := run_without_artifact hparse hartifact
    rw [hrun] at hexit
    exact absurd (hexit.symm.trans hfailed) (by decide)
  | some artifact =>
    obtain ⟨device, hdevice, hrest⟩ := Option.bind_eq_some_iff.mp hartifact
    obtain ⟨configuration, hconfiguration, hcode⟩ := Option.bind_eq_some_iff.mp hrest
    have hfree : device.conflicts configuration = [] := by
      by_contra hconflicts
      rw [FileStore.code?, if_pos ⟨hdenies, hconflicts⟩] at hcode
      cases hcode
    rw [run_of_input hparse rfl hdevice hconfiguration,
      run_of_input hothers rfl hdevice hconfiguration]
    unfold runGenerate
    rw [deliver_allowing hfree]

end

/-- Code is delivered as a whole or not at all. Take arguments that ask for code in a folder.
If there is no code for what the store holds, since a file cannot be read, or does not say what it
should, or has conflicts that are denied, or since generation fails, then the run fails, and the
store is what it was. If there is code and the store takes it, then the run succeeds, the store
holds the code, and nothing else is changed. And where conflicts are denied, but the run succeeds
all the same, it would do just the same if they were not. -/
theorem run_delivers_or_fails {arguments : List String} {description : Option String}
    {request : GenerationRequest} {folder : String}
    (hparse : Invocation.parse arguments = .ok ⟨description, .generate request⟩)
    (hfolder : request.folder = some folder) (store : FileStore) :
    (store.artifact? description request = none →
      ((run arguments : StateM FileStore Outcome) store).1.exitCode = 1 ∧
        ((run arguments : StateM FileStore Outcome) store).2 = store) ∧
    (∀ artifact, store.artifact? description request = some artifact →
      store.Takes folder artifact.files →
        ((run arguments : StateM FileStore Outcome) store).1.exitCode = 0 ∧
          store.Received ((run arguments : StateM FileStore Outcome) store).2 folder artifact) ∧
    (request.allowConflicts = false →
      ((run arguments : StateM FileStore Outcome) store).1.exitCode = 0 →
        ∀ others, Invocation.parse others =
            .ok ⟨description, .generate { request with allowConflicts := true }⟩ →
          (run others : StateM FileStore Outcome) store =
            (run arguments : StateM FileStore Outcome) store) := by
  refine ⟨?_, ?_, ?_⟩
  · intro hnone
    obtain ⟨outcome, hrun, hexit⟩ := run_without_artifact hparse hnone
    rw [hrun]
    exact ⟨hexit, rfl⟩
  · intro artifact hsome htakes
    obtain ⟨outcome, after, hrun, hexit, hreceived⟩ :=
      run_with_artifact hparse hfolder hsome htakes
    rw [hrun]
    exact ⟨hexit, hreceived⟩
  · intro hdenies hexit others hothers
    exact run_allowing hparse hothers hdenies hexit

/-! ## A folder for the code of a watchdog -/

/-- A configuration that switches the watchdog on, as a text. -/
def watchdogSwitchText : String := "\x7b\"wdt\":\x7b\"enabled\":true\x7d\x7d"

/-- A store with the description of a watchdog and a configuration of it. -/
def watchdogStore : FileStore :=
  ((FileStore.empty ["w"] ⟨0⟩).withFile "d.xml" Device.watchdogText).withFile "c.json"
    watchdogSwitchText

/-- Arguments that ask for the code in a folder. -/
def watchdogArguments (more : List String) : List String :=
  ["gen", "--schema", "d.xml", "--config", "c.json", "--out-dir", "out"] ++ more

/-- What is asked for. -/
def watchdogRequest : GenerationRequest := ⟨"c.json", some "out", none, false, true, false⟩

/-- The description is that of the watchdog. -/
theorem device?_watchdogStore :
    watchdogStore.device? (some "d.xml") = some Device.watchdogDevice := by
  have hdescription : watchdogStore.textOf? "d.xml" = some Device.watchdogText := by
    decide +kernel
  rw [FileStore.device?, hdescription, Option.bind_some, Device.parse_watchdogText]
  rfl

/-- The configuration switches the watchdog on. -/
theorem configuration?_watchdogStore :
    watchdogStore.configuration? "c.json" = some watchdogConfiguration := by
  have hswitch : watchdogStore.textOf? "c.json" = some watchdogSwitchText := by decide +kernel
  have hparse : Configuration.parse watchdogSwitchText = .ok watchdogConfiguration := by
    decide +kernel
  rw [FileStore.configuration?, hswitch, Option.bind_some, hparse]
  rfl

/-- There is code for the watchdog. -/
theorem exists_artifact_watchdogStore :
    ∃ artifact, watchdogStore.artifact? (some "d.xml") watchdogRequest = some artifact := by
  have hcode : (watchdogStore.code? Device.watchdogDevice watchdogConfiguration
      watchdogRequest).isSome = true := by
    decide +kernel
  rw [FileStore.artifact?, device?_watchdogStore, Option.bind_some]
  change ∃ artifact, ((watchdogStore.configuration? "c.json").bind fun configuration =>
    watchdogStore.code? Device.watchdogDevice configuration watchdogRequest) = some artifact
  rw [configuration?_watchdogStore, Option.bind_some]
  exact Option.isSome_iff_exists.mp hcode

/-- Both files can be written into the folder. -/
theorem takes_watchdogStore (artifact : Artifact) :
    watchdogStore.Takes "out" artifact.files := by
  have hheader : (watchdogStore.createFolders "out").1.WritesAt
      (inFolder "out" Artifact.headerName) ["w", "out"] Artifact.headerName :=
    ⟨by decide +kernel, by decide +kernel, by decide +kernel, by decide +kernel,
      ⟨by decide, by decide, by decide, by decide +kernel⟩, by decide +kernel⟩
  have hsource : (watchdogStore.createFolders "out").1.WritesAt
      (inFolder "out" Artifact.sourceName) ["w", "out"] Artifact.sourceName :=
    ⟨by decide +kernel, by decide +kernel, by decide +kernel, by decide +kernel,
      ⟨by decide, by decide, by decide, by decide +kernel⟩, by decide +kernel⟩
  refine ⟨by decide +kernel, ?_⟩
  intro file hfile
  rcases List.mem_cons.mp hfile with rfl | hfile
  · exact ⟨_, FileStore.write_eq_ok_iff.mpr ⟨_, _, hheader, rfl⟩⟩
  · obtain rfl := List.mem_singleton.mp hfile
    exact ⟨_, FileStore.write_eq_ok_iff.mpr ⟨_, _, hsource, rfl⟩⟩

/-- The code of the watchdog is delivered, and it is the same if conflicts are accepted. -/
theorem run_delivers_watchdog :
    Invocation.parse (watchdogArguments ["--stamp", "--deny-conflicts"]) =
        .ok ⟨some "d.xml", .generate watchdogRequest⟩ ∧
      watchdogRequest.folder = some "out" ∧
      (∃ artifact, watchdogStore.Received
        ((run (watchdogArguments ["--stamp", "--deny-conflicts"]) : StateM FileStore Outcome)
          watchdogStore).2 "out" artifact) ∧
      (run (watchdogArguments ["--stamp"]) : StateM FileStore Outcome) watchdogStore =
        (run (watchdogArguments ["--stamp", "--deny-conflicts"]) : StateM FileStore Outcome)
          watchdogStore := by
  have hparse : Invocation.parse (watchdogArguments ["--stamp", "--deny-conflicts"]) =
      .ok ⟨some "d.xml", .generate watchdogRequest⟩ := by decide +kernel
  have hallowing : Invocation.parse (watchdogArguments ["--stamp"]) =
      .ok ⟨some "d.xml", .generate { watchdogRequest with allowConflicts := true }⟩ := by
    decide +kernel
  obtain ⟨artifact, hartifact⟩ := exists_artifact_watchdogStore
  obtain ⟨-, hdelivers, hdenies⟩ := run_delivers_or_fails hparse rfl watchdogStore
  obtain ⟨hexit, hreceived⟩ := hdelivers artifact hartifact (takes_watchdogStore artifact)
  exact ⟨hparse, rfl, ⟨artifact, hreceived⟩, hdenies rfl hexit _ hallowing⟩

end AvrSetup
