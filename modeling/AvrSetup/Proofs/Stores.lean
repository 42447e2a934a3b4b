import AvrSetup.Files.Store
import AvrSetup.Proofs.Pieces
import AvrSetup.Proofs.Success

/-!
# What writing does to a file store

A path that leads somewhere in a store leads there in every store with more files and folders
(`FileStore.walk_mono`). So a file can be read back after it has been written, and after anything
else has been added to the store (`FileStore.read_of_writesAt`). To create a folder makes folders
on the way to it, keeps all that was there, and leaves the files alone
(`FileStore.makesWay_createFolders`).
-/

namespace AvrSetup

/-- A set has a new member, and the members that it had. -/
theorem SortedSet.contains_add {α : Type} [Ord α] [Std.TransOrd α] [Std.LawfulEqOrd α]
    [DecidableEq α] {set : SortedSet α} {member other : α} :
    (set.add member).contains other = true ↔ other = member ∨ set.contains other = true := by
  rw [SortedMap.contains, add, SortedMap.get?_insert]
  by_cases h : other = member
  · simp [h]
  · simp [h, SortedMap.contains]

/-! ## Names in paths -/

/-- A list whose last member is not the default ends with its last member. -/
theorem dropLast_concat_getLastD {list : List String} {default : String}
    (h : list.getLastD default ≠ default) : list.dropLast ++ [list.getLastD default] = list := by
  rcases List.eq_nil_or_concat list with rfl | ⟨before, last, rfl⟩
  · exact absurd rfl h
  · simp

/-- The last name in a path that is empty or ends with a slash is empty. -/
theorem exists_pathNames_eq_concat {path : String}
    (h : path = "" ∨ path.toList.getLast? = some '/') :
    ∃ before, pathNames path = before ++ [""] := by
  rcases h with rfl | hslash
  · exact ⟨[], rfl⟩
  · obtain ⟨before, hbefore⟩ := List.getLast?_eq_some_iff.mp hslash
    refine ⟨(before.splitOn '/').map .ofList, ?_⟩
    rw [pathNames, hbefore, List.splitOn_append_cons_self, List.map_append]
    rfl

/-- The names on the way to a file in a folder, before the name of the file. -/
def folderNames (folder : String) : List String :=
  if folder = "" ∨ folder.toList.getLast? = some '/' then (pathNames folder).dropLast
  else pathNames folder

/-- A file in a folder is found by the names that lead to the folder and its own name. -/
theorem pathNames_inFolder {file : String} (hfile : '/' ∉ file.toList) (folder : String) :
    pathNames (inFolder folder file) = folderNames folder ++ [file] := by
  have hname : file.toList.splitOn '/' = [file.toList] := List.splitOn_eq_singleton hfile
  have hsplit (before : List Char) : (before ++ '/' :: file.toList).splitOn '/' =
      before.splitOn '/' ++ [file.toList] := by
    rw [List.splitOn_append_cons_self, hname]
  unfold inFolder folderNames
  by_cases hempty : folder = ""
  · rw [if_pos hempty, if_pos (.inl hempty), hempty]
    simp [pathNames, hname]
  · rw [if_neg hempty]
    by_cases hslash : folder.toList.getLast? = some '/'
    · obtain ⟨before, hbefore⟩ := List.getLast?_eq_some_iff.mp hslash
      have hfolder : folder.toList.splitOn '/' = before.splitOn '/' ++ [[]] := by
        rw [hbefore]
        exact List.splitOn_append_cons_self before []
      have hpath : (folder ++ file).toList = before ++ '/' :: file.toList := by
        rw [String.toList_append, hbefore, List.append_assoc]
        rfl
      rw [if_pos hslash, if_pos (.inr hslash), pathNames, pathNames, hpath, hsplit, hfolder]
      simp
    · have hpath : (folder ++ "/" ++ file).toList = folder.toList ++ '/' :: file.toList := by
        rw [String.toList_append, String.toList_append, List.append_assoc]
        rfl
      rw [if_neg hslash, if_neg (not_or.mpr ⟨hempty, hslash⟩), pathNames, pathNames, hpath, hsplit]
      simp

namespace FileStore

/-! ## Stores with more files and folders -/

/-- All files and folders of a store are in another one. -/
structure IsWithin (store more : FileStore) : Prop where
  /-- Paths begin at the same place. -/
  workingFolder : more.workingFolder = store.workingFolder
  /-- The folders are there. -/
  folders : ∀ place, store.folders.contains place = true → more.folders.contains place = true
  /-- The files are there, perhaps with other texts. -/
  files : ∀ place, store.files.contains place = true → more.files.contains place = true

namespace IsWithin

variable {store more most : FileStore}

theorem refl (store : FileStore) : store.IsWithin store := ⟨rfl, fun _ => id, fun _ => id⟩

theorem trans (h : store.IsWithin more) (hmore : more.IsWithin most) : store.IsWithin most :=
  ⟨hmore.workingFolder.trans h.workingFolder,
    fun place hplace => hmore.folders place (h.folders place hplace),
    fun place hplace => hmore.files place (h.files place hplace)⟩

theorem start_eq (h : store.IsWithin more) (path : String) :
    more.start path = store.start path := by
  unfold start
  rw [h.workingFolder]

theorem isFolder (h : store.IsWithin more) {place : Place} (hplace : store.isFolder place = true) :
    more.isFolder place = true := by
  rcases (Bool.or_eq_true _ _).mp hplace with hroot | hfolder
  · exact (Bool.or_eq_true _ _).mpr (.inl hroot)
  · exact (Bool.or_eq_true _ _).mpr (.inr (h.folders place hfolder))

theorem has (h : store.IsWithin more) {place : Place} (hplace : store.has place = true) :
    more.has place = true := by
  rcases (Bool.or_eq_true _ _).mp hplace with hfolder | hfile
  · exact (Bool.or_eq_true _ _).mpr (.inl (h.isFolder hfolder))
  · exact (Bool.or_eq_true _ _).mpr (.inr (h.files place hfile))

end IsWithin

variable {store more next : FileStore} {place there : Place} {name path text : String}
  {names : List String}

/-- A name that a file or a folder can have. -/
structure IsName (name : String) : Prop where
  /-- It is not empty. -/
  ne_empty : name ≠ ""
  /-- It does not stand for the folder that it is in. -/
  ne_dot : name ≠ "."
  /-- It does not stand for the folder around. -/
  ne_dots : name ≠ ".."
  /-- It is not too long. -/
  short : name.utf8ByteSize ≤ nameLimit

/-- From a folder, a name leads nowhere else, or out of it, or to what has this name in it. -/
theorem step_eq_ok_iff :
    store.step place name = .ok there ↔ store.isFolder place = true ∧
      ((name = "" ∨ name = ".") ∧ there = place ∨ name = ".." ∧ there = place.dropLast ∨
        IsName name ∧ store.has (place ++ [name]) = true ∧ there = place ++ [name]) := by
  have hname : IsName name ↔ name ≠ "" ∧ name ≠ "." ∧ name ≠ ".." ∧
      name.utf8ByteSize ≤ nameLimit :=
    ⟨fun ⟨hempty, hdot, hdots, hshort⟩ => ⟨hempty, hdot, hdots, hshort⟩,
      fun ⟨hempty, hdot, hdots, hshort⟩ => ⟨hempty, hdot, hdots, hshort⟩⟩
  unfold step
  rw [hname]
  cases hfolder : store.isFolder place with
  | false => simp
  | true =>
    by_cases hstay : name = "" ∨ name = "."
    · have hdots : name ≠ ".." := by rcases hstay with rfl | rfl <;> decide
      simp only [Bool.not_true, Bool.false_eq_true, if_false, if_pos hstay, Except.ok.injEq]
      grind
    · by_cases hdots : name = ".."
      · simp only [Bool.not_true, Bool.false_eq_true, if_false, if_neg hstay, if_pos hdots,
          Except.ok.injEq]
        grind
      · simp only [Bool.not_true, Bool.false_eq_true, if_false, if_neg hstay, if_neg hdots]
        split
        · grind
        · split <;> grind

/-- A name still leads where it led. -/
theorem step_mono (h : store.IsWithin more) (hstep : store.step place name = .ok there) :
    more.step place name = .ok there := by
  obtain ⟨hfolder, hcases⟩ := step_eq_ok_iff.mp hstep
  refine step_eq_ok_iff.mpr ⟨h.isFolder hfolder, ?_⟩
  rcases hcases with hstay | hout | ⟨hname, hhas, hthere⟩
  · exact .inl hstay
  · exact .inr (.inl hout)
  · exact .inr (.inr ⟨hname, h.has hhas, hthere⟩)

/-- Names still lead where they led. -/
theorem walk_mono (h : store.IsWithin more) (hwalk : store.walk place names = .ok there) :
    more.walk place names = .ok there := by
  unfold walk at hwalk ⊢
  induction names generalizing place with
  | nil => exact hwalk
  | cons name rest ih =>
    rw [List.foldlM_cons] at hwalk ⊢
    obtain ⟨next, hstep, hrest⟩ := bind_eq_ok_iff.mp hwalk
    rw [step_mono h hstep]
    exact ih hrest

/-- The way goes on by one more name. -/
theorem walk_concat :
    store.walk place (names ++ [name]) = .ok there ↔
      ∃ around, store.walk place names = .ok around ∧ store.step around name = .ok there := by
  have hlast (around : Place) : [name].foldlM store.step around = store.step around name := by
    rw [List.foldlM_cons]
    cases store.step around name <;> rfl
  rw [walk, List.foldlM_append, bind_eq_ok_iff]
  simp only [hlast]
  rfl

/-- A folder is reached by the names on the way to the files in it. -/
theorem placeOf_of_folderNames {folder : String} (hplace : store.isFolder place = true)
    (hwalk : store.walk (store.start folder) (folderNames folder) = .ok place) :
    store.placeOf folder = .ok place := by
  have hempty : store.step place "" = .ok place :=
    step_eq_ok_iff.mpr ⟨hplace, .inl ⟨.inl rfl, rfl⟩⟩
  unfold folderNames at hwalk
  split at hwalk
  · next hend =>
    -- The last name is empty, so it does not lead any further.
    obtain ⟨before, hbefore⟩ := exists_pathNames_eq_concat hend
    rw [hbefore, List.dropLast_concat] at hwalk
    rw [placeOf, hbefore]
    exact walk_concat.mpr ⟨place, hwalk, hempty⟩
  · exact hwalk

/-! ## Written files -/

/-- A file can be written at a path. Its folder is there, and so is its name free of a folder. -/
structure WritesAt (store : FileStore) (path : String) (around : Place) (name : String) : Prop where
  /-- The path is not too long. -/
  short : path.utf8ByteSize ≤ pathLimit
  /-- The last name in the path is the name of the file. -/
  names_eq : pathNames path = (pathNames path).dropLast ++ [name]
  /-- The names before it lead to its folder. -/
  walk_eq : store.walk (store.start path) (pathNames path).dropLast = .ok around
  /-- This is a folder. -/
  isFolder_around : store.isFolder around = true
  /-- The file can have the name. -/
  isName : IsName name
  /-- No folder has it. -/
  free : store.isFolder (around ++ [name]) = false

/-- The store with a file at a place. -/
def withText (store : FileStore) (place : Place) (text : String) : FileStore :=
  { store with files := store.files.insert place (some text) }

theorem get?_withText (store : FileStore) (place other : Place) (text : String) :
    (store.withText place text).files.get? other =
      if other = place then some (some text) else store.files.get? other :=
  SortedMap.get?_insert store.files place other (some text)

theorem isWithin_withText (store : FileStore) (place : Place) (text : String) :
    store.IsWithin (store.withText place text) := by
  refine ⟨rfl, fun _ => id, ?_⟩
  intro other hother
  rw [SortedMap.contains, get?_withText]
  split
  · rfl
  · exact hother

/-- To write a file is to put its text where it can be written. -/
theorem write_eq_ok_iff :
    store.write path text = .ok next ↔
      ∃ around name, store.WritesAt path around name ∧
        next = store.withText (around ++ [name]) text := by
  have hrefused (around : Place) (name : String) :
      ¬(name = "" ∨ name = "." ∨ name = ".." ∨ store.isFolder (around ++ [name]) = true) ↔
        name ≠ "" ∧ name ≠ "." ∧ name ≠ ".." ∧ store.isFolder (around ++ [name]) = false := by
    rw [not_or, not_or, not_or, Bool.not_eq_true]
  simp only [write, bind_eq_ok_iff, unless_eq_ok_iff, hrefused]
  constructor
  · rintro ⟨hpath, around, hwalk, haround, ⟨hempty, hdot, hdots, hfree⟩, hshort, heq⟩
    cases heq
    refine ⟨around, _, ⟨Nat.not_lt.mp hpath, ?_, hwalk, by simpa using haround, ?_, hfree⟩, rfl⟩
    · exact (dropLast_concat_getLastD hempty).symm
    · exact ⟨hempty, hdot, hdots, Nat.not_lt.mp hshort⟩
  · rintro ⟨around, name, ⟨hpath, hnames, hwalk, haround, hname, hfree⟩, rfl⟩
    have hlast : (pathNames path).getLastD "" = name := by
      rw [hnames, List.getLastD_concat]
    refine ⟨Nat.not_lt.mpr hpath, around, hwalk, by simp [haround], ?_⟩
    rw [hlast]
    exact ⟨⟨hname.ne_empty, hname.ne_dot, hname.ne_dots, hfree⟩, Nat.not_lt.mpr hname.short, rfl⟩

/-- A file that can be written can still be written after another one has been. -/
theorem WritesAt.withText {around : Place} (h : store.WritesAt path around name) (other : Place)
    (text : String) : (store.withText other text).WritesAt path around name :=
  ⟨h.short, h.names_eq, walk_mono (isWithin_withText store other text) h.walk_eq,
    h.isFolder_around, h.isName, h.free⟩

/-- The path of a file in a folder begins where the path of the folder does. -/
theorem start_inFolder {file : String} (hfile : '/' ∉ file.toList) (store : FileStore)
    (folder : String) : store.start (inFolder folder file) = store.start folder := by
  have hhead : (inFolder folder file).toList.head? = some '/' ↔
      folder.toList.head? = some '/' := by
    unfold inFolder
    by_cases hempty : folder = ""
    · have hfirst : file.toList.head? ≠ some '/' := fun h => hfile (List.mem_of_head? h)
      rw [if_pos hempty, hempty]
      exact ⟨fun h => absurd h hfirst, nofun⟩
    · have hne : folder.toList ≠ [] := fun h => hempty (String.toList_eq_nil_iff.mp h)
      obtain ⟨c, rest, hcons⟩ := List.exists_cons_of_ne_nil hne
      rw [if_neg hempty]
      split <;> simp [String.toList_append, hcons]
  unfold start
  simp only [hhead]

/-- A file that is written into a folder is in this folder under its own name. -/
theorem exists_writesAt_inFolder {folder file : String} (hfile : '/' ∉ file.toList)
    (h : store.write (inFolder folder file) text = .ok next) :
    ∃ around, store.walk (store.start folder) (folderNames folder) = .ok around ∧
      store.WritesAt (inFolder folder file) around file ∧
        next = store.withText (around ++ [file]) text := by
  obtain ⟨around, name, hwrites, heq⟩ := write_eq_ok_iff.mp h
  have hnames := hwrites.names_eq
  rw [pathNames_inFolder hfile, List.dropLast_concat] at hnames
  obtain rfl : file = name := by simpa using hnames
  refine ⟨around, ?_, hwrites, heq⟩
  have hwalk := hwrites.walk_eq
  rwa [pathNames_inFolder hfile, List.dropLast_concat, start_inFolder hfile] at hwalk

/-- A file that has been written is read where it was written, whatever has been added since. -/
theorem read_of_writesAt {around : Place} (h : store.WritesAt path around name)
    (hmore : store.IsWithin more)
    (htext : more.files.get? (around ++ [name]) = some (some text)) :
    more.read path = .ok text := by
  have hhas : more.has (around ++ [name]) = true := by
    rw [has, SortedMap.contains, htext, Option.isSome_some, Bool.or_true]
  have hstep : more.step around name = .ok (around ++ [name]) :=
    step_eq_ok_iff.mpr ⟨hmore.isFolder h.isFolder_around, .inr (.inr ⟨h.isName, hhas, rfl⟩)⟩
  have hplace : more.placeOf path = .ok (around ++ [name]) := by
    rw [placeOf, hmore.start_eq, h.names_eq]
    exact walk_concat.mpr ⟨around, walk_mono hmore h.walk_eq, hstep⟩
  have hpath : path ≠ "" := by
    rintro rfl
    have hnames := h.names_eq
    exact h.isName.ne_empty (List.head_eq_of_cons_eq hnames).symm
  rw [read, if_neg hpath, hplace]
  simp only [bind, Except.bind, htext]

/-! ## Folders that are made -/

/-- A store after folders have been made on the way along some names. Nothing is lost, and the
new folders are where the first few of the names lead. -/
structure MakesWay (store made : FileStore) (place : Place) (names : List String) : Prop where
  /-- Everything is still there. -/
  isWithin : store.IsWithin made
  /-- The files are the same. -/
  files_eq : made.files = store.files
  /-- The moment is the same. -/
  moment_eq : made.moment = store.moment
  /-- A folder was there before, or it is on the way. -/
  on_way : ∀ folder, made.folders.contains folder = true → store.folders.contains folder = true ∨
    ∃ way, way <+: names ∧ made.walk place way = .ok folder

namespace MakesWay

variable {made : FileStore} {longer : List String}

theorem refl (store : FileStore) (place : Place) (names : List String) :
    store.MakesWay store place names := ⟨.refl store, rfl, rfl, fun _ => .inl⟩

/-- The way may go on. -/
theorem widen (h : store.MakesWay made place names) (hnames : names <+: longer) :
    store.MakesWay made place longer := by
  refine ⟨h.isWithin, h.files_eq, h.moment_eq, ?_⟩
  intro folder hfolder
  rcases h.on_way folder hfolder with hold | ⟨way, hway, hwalk⟩
  · exact .inl hold
  · exact .inr ⟨way, hway.trans hnames, hwalk⟩

theorem trans {between : FileStore} (h : store.MakesWay between place names)
    (hmade : between.MakesWay made place names) : store.MakesWay made place names := by
  refine ⟨h.isWithin.trans hmade.isWithin, hmade.files_eq.trans h.files_eq,
    hmade.moment_eq.trans h.moment_eq, ?_⟩
  intro folder hfolder
  rcases hmade.on_way folder hfolder with hbetween | hnew
  · rcases h.on_way folder hbetween with hold | ⟨way, hway, hwalk⟩
    · exact .inl hold
    · exact .inr ⟨way, hway, walk_mono hmade.isWithin hwalk⟩
  · exact .inr hnew

end MakesWay

/-- A folder that is made is where all of the names lead. -/
theorem makesWay_makeFolder {made : FileStore} (hnames : "" ∉ names)
    (h : store.makeFolder place names = .ok made) : store.MakesWay made place names := by
  simp only [makeFolder, bind_eq_ok_iff, unless_eq_ok_iff, not_or, Bool.not_eq_true,
    Bool.not_eq_false'] at h
  obtain ⟨around, hwalk, haround, hshort, ⟨hdot, hdots, -⟩, heq⟩ := h
  cases heq
  have hlast : names.dropLast ++ [names.getLastD "."] = names := dropLast_concat_getLastD hdot
  have hempty : names.getLastD "." ≠ "" := by
    intro heq
    rw [heq] at hlast
    exact hnames (hlast ▸ List.mem_append_right _ (List.mem_singleton.mpr rfl))
  have hname : IsName (names.getLastD ".") := ⟨hempty, hdot, hdots, Nat.not_lt.mp hshort⟩
  generalize names.getLastD "." = name at hlast hname ⊢
  have hwithin : store.IsWithin
      { store with folders := store.folders.add (around ++ [name]) } :=
    ⟨rfl, fun other hother => SortedSet.contains_add.mpr (.inr hother), fun _ => id⟩
  refine ⟨hwithin, rfl, rfl, ?_⟩
  intro folder hfolder
  rcases SortedSet.contains_add.mp hfolder with rfl | hold
  · refine .inr ⟨names, List.prefix_rfl, ?_⟩
    rw [← hlast, walk_concat]
    refine ⟨around, walk_mono hwithin hwalk, ?_⟩
    have hhas : FileStore.has { store with folders := store.folders.add (around ++ [name]) }
        (around ++ [name]) = true := by
      have hadded := SortedSet.contains_add.mpr (.inl rfl : around ++ [name] = around ++ [name] ∨
        store.folders.contains (around ++ [name]) = true)
      simp only [has, isFolder, hadded, Bool.or_true, Bool.true_or]
    exact step_eq_ok_iff.mpr ⟨hwithin.isFolder haround, .inr (.inr ⟨hname, hhas, rfl⟩)⟩
  · exact .inl hold

/-- A folder that may be there already is made or left alone. -/
theorem makesWay_settled (hnames : "" ∉ names) :
    store.MakesWay (store.settled place names).1 place names := by
  unfold settled
  split
  · next made hmade => exact makesWay_makeFolder hnames hmade
  · exact .refl store place names

/-- The names around a folder begin its own names. -/
theorem surroundings_suffix (trail : List String) : surroundings trail <:+ trail :=
  (List.dropWhile_suffix _).trans ((List.drop_suffix 1 _).trans (List.dropWhile_suffix _))

/-- The folders around a folder are made on the way to it. -/
theorem makesWay_makeFolders {trail : List String} (hnames : "" ∉ trail) :
    store.MakesWay (store.makeFolders place trail).1 place trail.reverse := by
  have hreverse {names : List String} (hnames : "" ∉ names) : "" ∉ names.reverse :=
    fun hmem => hnames (List.mem_reverse.mp hmem)
  fun_induction makeFolders store place trail with
  | case1 => exact .refl store place []
  | case2 name rest hmissing made hmade ih =>
    have hsuffix := surroundings_suffix (name :: rest)
    have haround : "" ∉ surroundings (name :: rest) := fun hmem => hnames (hsuffix.subset hmem)
    have hway := (ih haround).widen (List.reverse_prefix.mpr hsuffix)
    rw [hmade] at hway
    exact hway.trans (makesWay_settled (hreverse hnames))
  | case3 name rest hmissing hfailed ih =>
    have hsuffix := surroundings_suffix (name :: rest)
    have haround : "" ∉ surroundings (name :: rest) := fun hmem => hnames (hsuffix.subset hmem)
    exact (ih haround).widen (List.reverse_prefix.mpr hsuffix)
  | case4 name rest hother => exact makesWay_settled (hreverse hnames)

/-- To create a folder only makes folders on the way to it. -/
theorem makesWay_createFolders (store : FileStore) (path : String) :
    store.MakesWay (store.createFolders path).1 (store.start path)
      ((pathNames path).filter (· ≠ "")) := by
  unfold createFolders
  split
  · exact .refl store _ _
  · have hnames : "" ∉ ((pathNames path).filter (· ≠ "")).reverse := by simp
    have hway : store.MakesWay
        (store.makeFolders (store.start path) ((pathNames path).filter (· ≠ "")).reverse).1
        (store.start path) ((pathNames path).filter (· ≠ "")).reverse.reverse :=
      makesWay_makeFolders hnames
    rwa [List.reverse_reverse] at hway

end FileStore

end AvrSetup
