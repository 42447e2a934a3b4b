/-!
# Finite maps in key order

Settings, pin assignments and configurations are finite maps that are read out in
ascending key order. A map here is the list of its entries together with the fact that
their keys ascend strictly, so two maps with the same lookups are the same list
(`SortedMap.ext_get?`). The other lemmas say what each operation does to a lookup.
-/

namespace AvrSetup

/-- A finite map, held as its entries in strictly ascending key order. -/
structure SortedMap (α : Type) (β : Type) [Ord α] where
  /-- The entries, one for each key. -/
  entries : List (α × β)
  /-- Each key comes before every later one. -/
  ascending : entries.Pairwise fun left right => compare left.1 right.1 = .lt

namespace SortedMap

variable {α β γ : Type} [Ord α]

instance [DecidableEq α] [DecidableEq β] : DecidableEq (SortedMap α β) := fun left right =>
  decidable_of_iff (left.entries = right.entries) (by
    cases left; cases right; simp)

/-- The map without entries. -/
def empty : SortedMap α β := ⟨[], .nil⟩

instance : EmptyCollection (SortedMap α β) := ⟨empty⟩

instance : Inhabited (SortedMap α β) := ⟨empty⟩

/-- The keys, ascending. -/
def keys (map : SortedMap α β) : List α := map.entries.map (·.1)

/-- The number of entries. -/
def size (map : SortedMap α β) : Nat := map.entries.length

/-- Whether there is no entry at all. -/
def isEmpty (map : SortedMap α β) : Bool := map.entries.isEmpty

/-- The value that a list of entries gives for a key. -/
def lookup (key : α) : List (α × β) → Option β
  | [] => none
  | (k, value) :: rest => if compare key k = .eq then some value else lookup key rest

/-- The value for a key. -/
def get? (map : SortedMap α β) (key : α) : Option β := lookup key map.entries

/-- Whether the map has an entry for a key. -/
def contains (map : SortedMap α β) (key : α) : Bool := (map.get? key).isSome

/-- Put an entry into its place among ascending entries, replacing one with the same key. -/
def insertEntry (key : α) (value : β) : List (α × β) → List (α × β)
  | [] => [(key, value)]
  | (k, v) :: rest =>
    match compare key k with
    | .lt => (key, value) :: (k, v) :: rest
    | .eq => (key, value) :: rest
    | .gt => (k, v) :: insertEntry key value rest

/-- Entries behind an inserted one are the new entry or old ones. -/
theorem mem_of_mem_insertEntry {key : α} {value : β} {entry : α × β} {rest : List (α × β)}
    (h : entry ∈ insertEntry key value rest) : entry = (key, value) ∨ entry ∈ rest := by
  induction rest with
  | nil => simpa [insertEntry] using h
  | cons head rest ih =>
    obtain ⟨k, v⟩ := head
    simp only [insertEntry] at h
    split at h <;> simp_all <;> grind

/-- Insertion keeps the keys strictly ascending. -/
theorem ascending_insertEntry [Std.TransOrd α] [Std.LawfulEqOrd α] (key : α) (value : β)
    {entries : List (α × β)}
    (h : entries.Pairwise fun left right => compare left.1 right.1 = .lt) :
    (insertEntry key value entries).Pairwise fun left right => compare left.1 right.1 = .lt := by
  induction entries with
  | nil => simp [insertEntry]
  | cons head rest ih =>
    obtain ⟨k, v⟩ := head
    obtain ⟨hhead, hrest⟩ := List.pairwise_cons.mp h
    simp only [insertEntry]
    split
    · next hlt =>
      refine List.pairwise_cons.mpr ⟨fun entry hmem => ?_, h⟩
      rcases List.mem_cons.mp hmem with rfl | hmem
      · exact hlt
      · exact Std.TransCmp.lt_trans hlt (hhead entry hmem)
    · next heq =>
      have hkey : key = k := Std.LawfulEqCmp.compare_eq_iff_eq.mp heq
      subst hkey
      exact List.pairwise_cons.mpr ⟨hhead, hrest⟩
    · next hgt =>
      refine List.pairwise_cons.mpr ⟨fun entry hmem => ?_, ih hrest⟩
      rcases mem_of_mem_insertEntry hmem with rfl | hmem
      · exact Std.OrientedCmp.gt_iff_lt.mp hgt
      · exact hhead entry hmem

/-- The map with one entry added, or replaced if the key is there already. -/
def insert [Std.TransOrd α] [Std.LawfulEqOrd α] (map : SortedMap α β) (key : α) (value : β) :
    SortedMap α β :=
  ⟨insertEntry key value map.entries, ascending_insertEntry key value map.ascending⟩

/-- The map without the entry for a key. -/
def erase (map : SortedMap α β) (key : α) : SortedMap α β :=
  ⟨map.entries.filter fun entry => compare key entry.1 != .eq,
    map.ascending.sublist List.filter_sublist⟩

/-- The map of a list of entries, in which a later entry replaces an earlier one. -/
def ofList [Std.TransOrd α] [Std.LawfulEqOrd α] (entries : List (α × β)) : SortedMap α β :=
  entries.foldl (fun map entry => map.insert entry.1 entry.2) empty

/-- The first map with the entries of the second put over its own. -/
def overlay [Std.TransOrd α] [Std.LawfulEqOrd α] (map upper : SortedMap α β) : SortedMap α β :=
  upper.entries.foldl (fun map entry => map.insert entry.1 entry.2) map

/-- The map with each value replaced by a function of its key and itself. -/
def mapValues (f : α → β → γ) (map : SortedMap α β) : SortedMap α γ :=
  ⟨map.entries.map fun entry => (entry.1, f entry.1 entry.2),
    List.pairwise_map.mpr map.ascending⟩

/-- The map with the entries whose key passes a test. -/
def filterKeys (p : α → Bool) (map : SortedMap α β) : SortedMap α β :=
  ⟨map.entries.filter fun entry => p entry.1, map.ascending.sublist List.filter_sublist⟩

/-! ## Lookups -/

@[simp] theorem get?_empty (key : α) : (empty : SortedMap α β).get? key = none := rfl

/-- An inserted entry is found under its key, and other keys keep their values. -/
theorem lookup_insertEntry [DecidableEq α] [Std.LawfulEqOrd α] (key other : α) (value : β)
    (entries : List (α × β)) :
    lookup other (insertEntry key value entries) =
      if other = key then some value else lookup other entries := by
  induction entries with
  | nil => simp [insertEntry, lookup, Std.LawfulEqCmp.compare_eq_iff_eq]
  | cons head rest ih =>
    obtain ⟨k, v⟩ := head
    simp only [insertEntry]
    split
    · simp [lookup, Std.LawfulEqCmp.compare_eq_iff_eq]
    · next heq =>
      have hkey : key = k := Std.LawfulEqCmp.compare_eq_iff_eq.mp heq
      subst hkey
      by_cases h : other = key <;> simp [lookup, Std.LawfulEqCmp.compare_eq_iff_eq, h]
    · next hgt =>
      have hne : k ≠ key := fun h => by simp [h, Std.ReflCmp.compare_self] at hgt
      by_cases h : other = k
      · subst h
        simp [lookup, Std.ReflCmp.compare_self, hne]
      · simp [lookup, Std.LawfulEqCmp.compare_eq_iff_eq, h, ih]

/-- Insertion changes the lookup of its own key only. -/
theorem get?_insert [DecidableEq α] [Std.TransOrd α] [Std.LawfulEqOrd α]
    (map : SortedMap α β) (key other : α) (value : β) :
    (map.insert key value).get? other = if other = key then some value else map.get? other :=
  lookup_insertEntry key other value map.entries

/-- Erasing a key removes its value only. -/
theorem get?_erase [DecidableEq α] [Std.LawfulEqOrd α] (map : SortedMap α β) (key other : α) :
    (map.erase key).get? other = if other = key then none else map.get? other := by
  obtain ⟨entries, hascending⟩ := map
  simp only [get?, erase]
  clear hascending
  induction entries with
  | nil => simp [lookup]
  | cons head rest ih =>
    obtain ⟨k, v⟩ := head
    by_cases hk : key = k
    · subst hk
      by_cases h : other = key <;>
        simp_all [lookup, Std.LawfulEqCmp.compare_eq_iff_eq, Std.ReflCmp.compare_self]
    · by_cases h : other = k
      · subst h
        simp [lookup, Std.LawfulEqCmp.compare_eq_iff_eq, Std.ReflCmp.compare_self, hk, Ne.symm hk]
      · simp [lookup, Std.LawfulEqCmp.compare_eq_iff_eq, hk, h, ih]

/-- Mapping over the values maps every lookup. -/
theorem get?_mapValues [Std.LawfulEqOrd α] (f : α → β → γ) (map : SortedMap α β) (key : α) :
    (map.mapValues f).get? key = (map.get? key).map (f key) := by
  obtain ⟨entries, hascending⟩ := map
  simp only [get?, mapValues]
  clear hascending
  induction entries with
  | nil => rfl
  | cons head rest ih =>
    obtain ⟨k, v⟩ := head
    by_cases h : compare key k = .eq
    · have hkey : key = k := Std.LawfulEqCmp.compare_eq_iff_eq.mp h
      simp [lookup, hkey, Std.ReflCmp.compare_self]
    · simp [lookup, h, ih]

/-- A value that is found stands in an entry under that key. -/
theorem mem_entries_of_get? [Std.LawfulEqOrd α] {map : SortedMap α β} {key : α} {value : β}
    (h : map.get? key = some value) : (key, value) ∈ map.entries := by
  obtain ⟨entries, hascending⟩ := map
  simp only [get?] at h ⊢
  clear hascending
  induction entries with
  | nil => simp [lookup] at h
  | cons head rest ih =>
    obtain ⟨k, v⟩ := head
    by_cases hk : key = k
    · subst hk
      simp_all [lookup, Std.ReflCmp.compare_self]
    · simp only [lookup, Std.LawfulEqCmp.compare_eq_iff_eq, hk, if_false] at h
      exact List.mem_cons_of_mem _ (ih h)

/-- Every entry is found under its key. -/
theorem get?_of_mem_entries [Std.LawfulEqOrd α] {map : SortedMap α β} {key : α} {value : β}
    (h : (key, value) ∈ map.entries) : map.get? key = some value := by
  obtain ⟨entries, hascending⟩ := map
  simp only [get?] at h ⊢
  induction entries with
  | nil => simp at h
  | cons head rest ih =>
    obtain ⟨k, v⟩ := head
    obtain ⟨hhead, hrest⟩ := List.pairwise_cons.mp hascending
    rcases List.mem_cons.mp h with heq | hmem
    · cases heq
      simp [lookup, Std.ReflCmp.compare_self]
    · have hlt := hhead _ hmem
      have hne : compare key k ≠ .eq := fun hkey => by
        have := Std.LawfulEqCmp.compare_eq_iff_eq.mp hkey
        subst this
        simp [Std.ReflCmp.compare_self] at hlt
      simp [lookup, hne, ih hrest hmem]

/-- The keys are those with a value. -/
theorem mem_keys_iff [Std.LawfulEqOrd α] {map : SortedMap α β} {key : α} :
    key ∈ map.keys ↔ ∃ value, map.get? key = some value := by
  constructor
  · intro h
    obtain ⟨⟨k, value⟩, hmem, rfl⟩ := List.mem_map.mp h
    exact ⟨value, get?_of_mem_entries hmem⟩
  · rintro ⟨value, h⟩
    exact List.mem_map.mpr ⟨(key, value), mem_entries_of_get? h, rfl⟩

/-- A map contains a key if it has a value for it. -/
theorem contains_iff {map : SortedMap α β} {key : α} :
    map.contains key = true ↔ ∃ value, map.get? key = some value := by
  rw [contains, Option.isSome_iff_exists]

/-- A key that comes before all others of a list of entries is not among them. -/
theorem lookup_eq_none_of_lt [Std.LawfulEqOrd α] {key : α} {entries : List (α × β)}
    (h : ∀ entry ∈ entries, compare key entry.1 = .lt) : lookup key entries = none := by
  induction entries with
  | nil => rfl
  | cons head rest ih =>
    obtain ⟨hhead, hrest⟩ := List.forall_mem_cons.mp h
    simp [lookup, hhead, ih hrest]

/-- The entries that are put over a map are found first. -/
theorem get?_overlay [DecidableEq α] [Std.TransOrd α] [Std.LawfulEqOrd α]
    (map upper : SortedMap α β) (key : α) :
    (map.overlay upper).get? key = (upper.get? key).or (map.get? key) := by
  obtain ⟨entries, hascending⟩ := upper
  simp only [overlay]
  induction entries generalizing map with
  | nil => rfl
  | cons head rest ih =>
    obtain ⟨k, value⟩ := head
    obtain ⟨hhead, hrest⟩ := List.pairwise_cons.mp hascending
    rw [List.foldl_cons, ih _ hrest, get?_insert]
    by_cases h : key = k
    · subst h
      have hnone : lookup key rest = none := lookup_eq_none_of_lt hhead
      simp [get?, lookup, hnone, Std.ReflCmp.compare_self]
    · have hne : compare key k ≠ .eq := fun heq => h (Std.LawfulEqCmp.compare_eq_iff_eq.mp heq)
      simp [get?, lookup, h, hne]

/-- A map keeps the entries whose keys pass the test. -/
theorem get?_filterKeys [Std.LawfulEqOrd α] (p : α → Bool) (map : SortedMap α β) (key : α) :
    (map.filterKeys p).get? key = if p key then map.get? key else none := by
  obtain ⟨entries, hascending⟩ := map
  simp only [get?, filterKeys]
  clear hascending
  induction entries with
  | nil => simp [lookup]
  | cons head rest ih =>
    obtain ⟨k, value⟩ := head
    rw [List.filter_cons]
    by_cases h : key = k
    · subst h
      by_cases hp : p key = true
      · simp [hp, lookup, Std.ReflCmp.compare_self]
      · simp [hp, ih]
    · have hne : compare key k ≠ .eq := fun heq => h (Std.LawfulEqCmp.compare_eq_iff_eq.mp heq)
      by_cases hp : p k = true
      · simp [hp, lookup, hne, ih]
      · simp [hp, lookup, hne, ih]

/-- The map of a list has the keys of the list. -/
theorem contains_ofList [DecidableEq α] [Std.TransOrd α] [Std.LawfulEqOrd α]
    (entries : List (α × β)) (key : α) :
    (ofList entries).contains key = true ↔ key ∈ entries.map (·.1) := by
  have hfold (map : SortedMap α β) :
      (entries.foldl (fun map entry => map.insert entry.1 entry.2) map).contains key = true ↔
        key ∈ entries.map (·.1) ∨ map.contains key = true := by
    induction entries generalizing map with
    | nil => simp
    | cons head rest ih =>
      rw [List.foldl_cons, ih, contains, get?_insert]
      by_cases h : key = head.1 <;> simp [h, contains]
  rw [ofList, hfold]
  simp [contains]

/-- What is found in the map of a list stands in the list. -/
theorem mem_of_get?_ofList [DecidableEq α] [Std.TransOrd α] [Std.LawfulEqOrd α]
    {entries : List (α × β)} {key : α} {value : β} (h : (ofList entries).get? key = some value) :
    (key, value) ∈ entries := by
  -- The list is put into a map that may have other entries already.
  have hfold (map : SortedMap α β)
      (hfound : (entries.foldl (fun map entry => map.insert entry.1 entry.2) map).get? key =
        some value) : (key, value) ∈ entries ∨ map.get? key = some value := by
    clear h
    induction entries generalizing map with
    | nil => exact .inr hfound
    | cons head rest ih =>
      rcases ih _ hfound with hmem | hinserted
      · exact .inl (List.mem_cons_of_mem _ hmem)
      · rw [get?_insert] at hinserted
        split at hinserted
        · next hkey =>
          subst hkey
          cases hinserted
          exact .inl List.mem_cons_self
        · exact .inr hinserted
  exact (hfold empty h).resolve_right nofun

/-- Two maps with the same entries as sets are the same. -/
theorem ext_mem [Std.TransOrd α] {left right : SortedMap α β}
    (h : ∀ entry, entry ∈ left.entries ↔ entry ∈ right.entries) :
    left = right := by
  have hirrefl : ∀ {entry : α × β}, compare entry.1 entry.1 ≠ .lt := fun {entry} => by
    simp [Std.ReflCmp.compare_self]
  obtain ⟨entries, hascending⟩ := left
  obtain ⟨others, hothers⟩ := right
  simp only at h
  suffices entries = others by simp [this]
  induction entries generalizing others with
  | nil => cases others with
    | nil => rfl
    | cons head rest => exact absurd ((h head).mpr (by simp)) (by simp)
  | cons head rest ih => cases others with
    | nil => exact absurd ((h head).mp (by simp)) (by simp)
    | cons other others =>
      obtain ⟨hhead, hrest⟩ := List.pairwise_cons.mp hascending
      obtain ⟨hother, htail⟩ := List.pairwise_cons.mp hothers
      have hsame : head = other := by
        rcases List.mem_cons.mp ((h head).mp (by simp)) with heq | hmem
        · exact heq
        · rcases List.mem_cons.mp ((h other).mpr (by simp)) with heq | hmem'
          · exact heq.symm
          · exact absurd (Std.TransCmp.lt_trans (hhead _ hmem') (hother _ hmem)) hirrefl
      subst hsame
      congr 1
      refine ih hrest others htail (fun entry => ⟨fun hmem => ?_, fun hmem => ?_⟩)
      · rcases List.mem_cons.mp ((h entry).mp (List.mem_cons_of_mem _ hmem)) with heq | hmem'
        · subst heq
          exact absurd (hhead _ hmem) hirrefl
        · exact hmem'
      · rcases List.mem_cons.mp ((h entry).mpr (List.mem_cons_of_mem _ hmem)) with heq | hmem'
        · subst heq
          exact absurd (hother _ hmem) hirrefl
        · exact hmem'

/-- Two maps with the same lookups are the same. -/
theorem ext_get? [Std.TransOrd α] [Std.LawfulEqOrd α] {left right : SortedMap α β}
    (h : ∀ key, left.get? key = right.get? key) :
    left = right :=
  ext_mem fun entry =>
    ⟨fun hmem => mem_entries_of_get? ((h entry.1) ▸ get?_of_mem_entries hmem),
      fun hmem => mem_entries_of_get? ((h entry.1) ▸ get?_of_mem_entries hmem)⟩

/-- A list with just the entries of a map, in any order and number, gives this map. -/
theorem ofList_eq [DecidableEq α] [Std.TransOrd α] [Std.LawfulEqOrd α] {entries : List (α × β)}
    {map : SortedMap α β} (h : ∀ entry, entry ∈ entries ↔ entry ∈ map.entries) :
    ofList entries = map := by
  refine ext_mem fun entry => ⟨fun hmem => ?_, fun hmem => ?_⟩
  · exact (h entry).mp (mem_of_get?_ofList (get?_of_mem_entries hmem))
  · have hkey : (ofList entries).contains entry.1 = true :=
      (contains_ofList entries entry.1).mpr (List.mem_map_of_mem ((h entry).mpr hmem))
    obtain ⟨value, hvalue⟩ := contains_iff.mp hkey
    have hfound : map.get? entry.1 = some value :=
      get?_of_mem_entries ((h _).mp (mem_of_get?_ofList hvalue))
    rw [get?_of_mem_entries hmem] at hfound
    cases hfound
    exact mem_entries_of_get? hvalue

/-- No key occurs twice. -/
theorem nodup_keys [Std.ReflOrd α] (map : SortedMap α β) : map.keys.Nodup := by
  refine List.pairwise_map.mpr (map.ascending.imp fun {left right} hlt heq => ?_)
  simp [heq, Std.ReflCmp.compare_self] at hlt

end SortedMap

/-- A finite set, read out in ascending order. -/
abbrev SortedSet (α : Type) [Ord α] := SortedMap α Unit

namespace SortedSet

variable {α : Type} [Ord α] [Std.TransOrd α] [Std.LawfulEqOrd α]

/-- The set of the members of a list. -/
def ofList (members : List α) : SortedSet α := SortedMap.ofList (members.map (·, ()))

/-- The members, ascending. -/
def toList (set : SortedSet α) : List α := set.keys

/-- The set with one more member. -/
def add (set : SortedSet α) (member : α) : SortedSet α := SortedMap.insert set member ()

/-- The members of either set. -/
def union (left right : SortedSet α) : SortedSet α := SortedMap.overlay left right

/-- The members of the set of a list are those of the list. -/
theorem mem_toList_ofList [DecidableEq α] {members : List α} {member : α} :
    member ∈ (ofList members).toList ↔ member ∈ members := by
  rw [toList, SortedMap.mem_keys_iff, ← SortedMap.contains_iff, ofList,
    SortedMap.contains_ofList, List.map_map]
  simp

/-- The members of a union are those of either set. -/
theorem mem_toList_union [DecidableEq α] {left right : SortedSet α} {member : α} :
    member ∈ (left.union right).toList ↔ member ∈ left.toList ∨ member ∈ right.toList := by
  simp only [toList, SortedMap.mem_keys_iff, ← SortedMap.contains_iff]
  simp only [SortedMap.contains, union, SortedMap.get?_overlay, Option.isSome_or, Bool.or_eq_true]
  exact or_comm

end SortedSet

end AvrSetup
