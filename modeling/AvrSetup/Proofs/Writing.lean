import AvrSetup.Atmega328p.Vocabulary
import AvrSetup.Configuration.Reader
import AvrSetup.Proofs.Exactness
import AvrSetup.Proofs.Success
import Mathlib.Data.List.Nodup

/-!
# Configurations in any order of members

The format of configurations leaves open in which order the members of an object stand, and
whether parts without content are written at all. So what a tree has to look like in order to say
a configuration is put down here as a list of parts for each object (`Json.Part`), and every such
tree is read as that configuration (`Configuration.read_in_any_order`). Numbers are the only
limit: an integer has to fit into the precision that JSON numbers are read with.
-/

namespace AvrSetup

/-! ## Objects in parts -/

namespace Json

/-- A part of what an object says. -/
structure Part where
  /-- The name of the member that says it. -/
  name : String
  /-- Whether the member may be left out. -/
  isOptional : Prop
  /-- Which values of the member say it. -/
  accepts : Json → Prop

/-- The members of an object say some parts and nothing else. -/
structure HasParts (parts : List Part) (members : List (String × Json)) : Prop where
  /-- No name is repeated. -/
  nodup : (members.map Prod.fst).Nodup
  /-- Every member says a part. -/
  only : ∀ member ∈ members, ∃ part ∈ parts, part.name = member.1 ∧ part.accepts member.2
  /-- Every part is said, unless it may be left out. -/
  all : ∀ part ∈ parts, part.isOptional ∨ ∃ json, (part.name, json) ∈ members ∧ part.accepts json

/-- A JSON value is an object that says some parts. -/
def IsObjectOf (parts : List Part) (json : Json) : Prop :=
  ∃ members, json = .object members ∧ HasParts parts members

/-- The two JSON values differ only in the order of members, at any depth. -/
inductive Reordered : Json → Json → Prop where
  /-- The values are the same. -/
  | refl (json : Json) : Reordered json json
  /-- One difference comes after another. -/
  | trans {first second third : Json} (h : Reordered first second) (h' : Reordered second third) :
    Reordered first third
  /-- The members of an object stand in another order. -/
  | members {members others : List (String × Json)} (h : members.Perm others) :
    Reordered (.object members) (.object others)
  /-- The difference is inside a member. -/
  | inMember {value other : Json} (before after : List (String × Json)) (name : String)
    (h : Reordered value other) :
    Reordered (.object (before ++ (name, value) :: after))
      (.object (before ++ (name, other) :: after))
  /-- The difference is inside an item of an array. -/
  | inItem {value other : Json} (before after : List Json) (h : Reordered value other) :
    Reordered (.array (before ++ value :: after)) (.array (before ++ other :: after))

section

variable {parts : List Part} {members : List (String × Json)}

theorem mem_of_member? {name : String} {json : Json} (h : member? name members = some json) :
    (name, json) ∈ members := by
  obtain ⟨⟨found, value⟩, hfound, rfl⟩ := Option.map_eq_some_iff.mp h
  obtain rfl : found = name := by simpa using List.find?_some hfound
  exact List.mem_of_find?_eq_some hfound

theorem member?_ne_none {name : String} {json : Json} (h : (name, json) ∈ members) :
    member? name members ≠ none := by
  intro hnone
  have hmissing := List.find?_eq_none.mp (Option.map_eq_none_iff.mp hnone) _ h
  simp at hmissing

/-- A part is left out, if it may be, or it is found under its name. -/
theorem HasParts.member?_cases (h : HasParts parts members) (hnames : (parts.map Part.name).Nodup)
    {part : Part} (hpart : part ∈ parts) :
    member? part.name members = none ∧ part.isOptional ∨
      ∃ json, member? part.name members = some json ∧ part.accepts json := by
  cases hfound : member? part.name members with
  | none =>
    rcases h.all part hpart with hoptional | ⟨json, hmem, -⟩
    · exact .inl ⟨rfl, hoptional⟩
    · exact absurd hfound (member?_ne_none hmem)
  | some json =>
    obtain ⟨other, hother, hname, haccepts⟩ := h.only _ (mem_of_member? hfound)
    obtain rfl : other = part := List.inj_on_of_nodup_map hnames hother hpart hname
    exact .inr ⟨json, rfl, haccepts⟩

/-- A part that may not be left out is found under its name. -/
theorem HasParts.exists_member? (h : HasParts parts members)
    (hnames : (parts.map Part.name).Nodup) {part : Part} (hpart : part ∈ parts)
    (hrequired : ¬part.isOptional) :
    ∃ json, member? part.name members = some json ∧ part.accepts json :=
  (h.member?_cases hnames hpart).resolve_left fun hnone => hrequired hnone.2

/-- Nothing is found under a name that no part has. -/
theorem HasParts.member?_eq_none (h : HasParts parts members) {name : String}
    (hname : name ∉ parts.map Part.name) : member? name members = none := by
  cases hfound : member? name members with
  | none => rfl
  | some json =>
    obtain ⟨part, hpart, rfl, -⟩ := h.only _ (mem_of_member? hfound)
    exact absurd (List.mem_map_of_mem hpart) hname

/-! ### Building objects -/

theorem HasParts.nil : HasParts [] [] where
  nodup := .nil
  only := by simp
  all := by simp

/-- One more member says one more part. -/
theorem HasParts.cons (h : HasParts parts members) {part : Part} {json : Json}
    (hname : part.name ∉ parts.map Part.name) (haccepts : part.accepts json) :
    HasParts (part :: parts) ((part.name, json) :: members) where
  nodup := by
    refine List.nodup_cons.mpr ⟨fun hmem => hname ?_, h.nodup⟩
    obtain ⟨member, hmember, hsame⟩ := List.mem_map.mp hmem
    obtain ⟨other, hother, hmemberName, -⟩ := h.only member hmember
    exact List.mem_map.mpr ⟨other, hother, hmemberName.trans hsame⟩
  only member hmember := by
    rcases List.mem_cons.mp hmember with rfl | hmember
    · exact ⟨part, List.mem_cons_self, rfl, haccepts⟩
    · obtain ⟨other, hother, hsays⟩ := h.only member hmember
      exact ⟨other, List.mem_cons_of_mem _ hother, hsays⟩
  all other hother := by
    rcases List.mem_cons.mp hother with rfl | hother
    · exact .inr ⟨json, List.mem_cons_self, haccepts⟩
    · exact (h.all other hother).imp_right fun ⟨value, hmem, hvalue⟩ =>
        ⟨value, List.mem_cons_of_mem _ hmem, hvalue⟩

/-- A part that may be left out is. -/
theorem HasParts.leaveOut (h : HasParts parts members) {part : Part} (hoptional : part.isOptional) :
    HasParts (part :: parts) members where
  nodup := h.nodup
  only member hmember := by
    obtain ⟨other, hother, hsays⟩ := h.only member hmember
    exact ⟨other, List.mem_cons_of_mem _ hother, hsays⟩
  all other hother := by
    rcases List.mem_cons.mp hother with rfl | hother
    · exact .inl hoptional
    · exact h.all other hother

/-- Members that say the parts one by one have these parts. -/
theorem HasParts.of_forall₂ (hnames : (parts.map Part.name).Nodup)
    (h : List.Forall₂ (fun part member => part.name = member.1 ∧ part.accepts member.2)
      parts members) : HasParts parts members := by
  induction h with
  | nil => exact .nil
  | @cons part member parts members hhead _ ih =>
    obtain ⟨hname, hrest⟩ := List.nodup_cons.mp hnames
    obtain ⟨name, json⟩ := member
    obtain ⟨rfl, haccepts⟩ := hhead
    exact (ih hrest).cons hname haccepts

/-! ### Another order -/

theorem HasParts.perm (h : HasParts parts members) {others : List (String × Json)}
    (hperm : members.Perm others) : HasParts parts others where
  nodup := (hperm.map Prod.fst).nodup_iff.mp h.nodup
  only member hmember := h.only member (hperm.mem_iff.mpr hmember)
  all part hpart := (h.all part hpart).imp_right fun ⟨json, hmem, haccepts⟩ =>
    ⟨json, hperm.mem_iff.mp hmem, haccepts⟩

/-- A member may have another value that says the same. -/
theorem HasParts.replace {before after : List (String × Json)} {name : String} {value other : Json}
    (h : HasParts parts (before ++ (name, value) :: after))
    (hvalue : ∀ part ∈ parts, part.accepts value → part.accepts other) :
    HasParts parts (before ++ (name, other) :: after) where
  nodup := by simpa using h.nodup
  only member hmember := by
    rcases List.mem_append.mp hmember with hmember | hmember
    · exact h.only member (List.mem_append_left _ hmember)
    · rcases List.mem_cons.mp hmember with rfl | hmember
      · obtain ⟨part, hpart, hname, haccepts⟩ := h.only (name, value) (by simp)
        exact ⟨part, hpart, hname, hvalue part hpart haccepts⟩
      · exact h.only member (by simp [hmember])
  all part hpart := by
    refine (h.all part hpart).imp_right ?_
    rintro ⟨json, hmem, haccepts⟩
    rcases List.mem_append.mp hmem with hmem | hmem
    · exact ⟨json, List.mem_append_left _ hmem, haccepts⟩
    · rcases List.mem_cons.mp hmem with heq | hmem
      · obtain ⟨rfl, rfl⟩ := Prod.mk.inj heq
        exact ⟨other, by simp, hvalue part hpart haccepts⟩
      · exact ⟨json, by simp [hmem], haccepts⟩

/-- What an object says does not depend on the order of members, if that of its parts does not. -/
theorem IsObjectOf.reordered {json other : Json} (h : IsObjectOf parts json)
    (hparts : ∀ part ∈ parts, ∀ value value', Reordered value value' → part.accepts value →
      part.accepts value')
    (hreordered : Reordered json other) : IsObjectOf parts other := by
  induction hreordered with
  | refl => exact h
  | trans _ _ ih ih' => exact ih' (ih h)
  | members hperm =>
    obtain ⟨_, heq, hmembers⟩ := h
    cases heq
    exact ⟨_, rfl, hmembers.perm hperm⟩
  | inMember before after name hvalue =>
    obtain ⟨_, heq, hmembers⟩ := h
    cases heq
    exact ⟨_, rfl, hmembers.replace fun part hpart => hparts part hpart _ _ hvalue⟩
  | inItem =>
    obtain ⟨_, heq, -⟩ := h
    cases heq

/-- Whether a JSON value has no others inside it. -/
def isScalar : Json → Bool
  | .array _ => false
  | .object _ => false
  | _ => true

/-- A value without others inside it has no other order. -/
theorem Reordered.eq_of_isScalar {json other : Json} (h : Reordered json other)
    (hscalar : json.isScalar = true) : other = json := by
  induction h with
  | refl => rfl
  | trans _ _ ih ih' =>
    obtain rfl := ih hscalar
    exact ih' hscalar
  | members => cases hscalar
  | inMember => cases hscalar
  | inItem => cases hscalar

end

end Json

/-! ## Maps -/

namespace SortedMap

variable {α β : Type} [Ord α]

/-- The parts of an object with a member for each entry of a map. -/
def parts (map : SortedMap α β) (name : α → String) (accepts : β → Json → Prop) :
    List Json.Part :=
  map.entries.map fun entry => ⟨name entry.1, False, accepts entry.2⟩

/-- The object with a member for each entry of a map. -/
def toJson (map : SortedMap α β) (name : α → String) (write : β → Json) : Json :=
  .object (map.entries.map fun entry => (name entry.1, write entry.2))

variable {map : SortedMap α β} {name : α → String} {accepts : β → Json → Prop}

/-- The parts are said if every value is written in an accepted way. -/
theorem isObjectOf_toJson [Std.ReflOrd α] (hname : Function.Injective name) {write : β → Json}
    (hwrite : ∀ entry ∈ map.entries, accepts entry.2 (write entry.2)) :
    Json.IsObjectOf (map.parts name accepts) (map.toJson name write) := by
  refine ⟨_, rfl, Json.HasParts.of_forall₂ ?_ ?_⟩
  · have hnames : (map.parts name accepts).map Json.Part.name = map.keys.map name := by
      simp [parts, keys]
    rw [hnames]
    exact map.nodup_keys.map hname
  · refine List.forall₂_map_left_iff.mpr (List.forall₂_map_right_iff.mpr ?_)
    exact List.forall₂_same.mpr fun entry hentry => ⟨rfl, hwrite entry hentry⟩

/-- The parts stay said in another order, if that does not matter to the values. -/
theorem isObjectOf_reordered {json other : Json}
    (haccepts : ∀ value json other, json.Reordered other → accepts value json →
      accepts value other)
    (h : Json.IsObjectOf (map.parts name accepts) json) (hreordered : json.Reordered other) :
    Json.IsObjectOf (map.parts name accepts) other := by
  refine h.reordered (fun part hpart value value' hvalue => ?_) hreordered
  obtain ⟨entry, -, rfl⟩ := List.mem_map.mp hpart
  exact haccepts entry.2 value value' hvalue

end SortedMap

/-! ## What a tree has to look like -/

/-- A value is written as a JSON value of its own kind. -/
inductive Value.IsWrittenAs : Value → Json → Prop where
  /-- A text is a string. -/
  | text (content : String) : IsWrittenAs (.text content) (.string content)
  /-- A truth value is one in JSON, too. -/
  | bool (flag : Bool) : IsWrittenAs (.bool flag) (.bool flag)
  /-- An integer is a number that stands for it. -/
  | int {integer : Int} {number : JsonNumber} (h : number.StandsFor integer) :
    IsWrittenAs (.int integer) (.number number)

/-- A record is written as an object with a member for each setting. -/
def Settings.IsWrittenAs (settings : Settings) : Json → Prop :=
  Json.IsObjectOf (settings.parts id Value.IsWrittenAs)

namespace State

/-- The `settings` of a state, which may be left out if there are none. -/
def settingsPart (settings : Settings) : Json.Part :=
  ⟨"settings", settings = ∅, settings.IsWrittenAs⟩

/-- The `interrupts` of a state, which may be left out if there are none. -/
def interruptsPart (interrupts : InterruptSwitches) : Json.Part :=
  ⟨"interrupts", interrupts = ∅,
    Json.IsObjectOf (interrupts.parts id fun enabled json => json = .bool enabled)⟩

/-- The `pins` of a state, with the settings of each. -/
def pinsPart (pins : SortedMap Pin Settings) : Json.Part :=
  ⟨"pins", False, Json.IsObjectOf (pins.parts Pin.name Settings.IsWrittenAs)⟩

/-- The parts that a state is written in. -/
def parts : State → List Json.Part
  | pinBound pins settings interrupts =>
    [pinsPart pins, settingsPart settings, interruptsPart interrupts]
  | interruptOnly interrupt settings =>
    [⟨"interrupt", False, fun json => json = .string interrupt⟩, settingsPart settings]
  | global enabled settings interrupts =>
    [⟨"enabled", False, fun json => json = .bool enabled⟩, settingsPart settings,
      interruptsPart interrupts]

/-- A state is written as an object with its parts. -/
def IsWrittenAs (state : State) : Json → Prop := Json.IsObjectOf state.parts

end State

/-- A configuration is written as an object with a member for each peripheral. -/
def Configuration.IsWrittenAs (configuration : Configuration) : Json → Prop :=
  Json.IsObjectOf (configuration.parts Peripheral.name State.IsWrittenAs)

/-! ## The order of members -/

/-- A scalar that is written in one way has no other order. -/
theorem eq_of_reordered {scalar json other : Json} (hscalar : scalar.isScalar = true)
    (hreordered : json.Reordered other) (h : json = scalar) : other = scalar := by
  subst h
  exact hreordered.eq_of_isScalar hscalar

theorem Value.IsWrittenAs.reordered {value : Value} {json other : Json}
    (h : value.IsWrittenAs json) (hreordered : json.Reordered other) : value.IsWrittenAs other := by
  have hscalar : json.isScalar = true := by cases h <;> rfl
  rw [hreordered.eq_of_isScalar hscalar]
  exact h

theorem Settings.IsWrittenAs.reordered {settings : Settings} {json other : Json}
    (h : settings.IsWrittenAs json) (hreordered : json.Reordered other) :
    settings.IsWrittenAs other :=
  SortedMap.isObjectOf_reordered (fun _ _ _ hvalue hwritten => hwritten.reordered hvalue) h
    hreordered

/-- The order of members does not matter to any part of a state. -/
theorem State.accepts_reordered {state : State} {part : Json.Part} (hpart : part ∈ state.parts)
    {json other : Json} (hreordered : json.Reordered other) (h : part.accepts json) :
    part.accepts other := by
  have hpins {pins : SortedMap Pin Settings} (h : (pinsPart pins).accepts json) :
      (pinsPart pins).accepts other :=
    SortedMap.isObjectOf_reordered (fun _ _ _ hvalue hgiven => hgiven.reordered hvalue) h hreordered
  have hsettings {settings : Settings} (h : (settingsPart settings).accepts json) :
      (settingsPart settings).accepts other :=
    Settings.IsWrittenAs.reordered h hreordered
  have hinterrupts {interrupts : InterruptSwitches} (h : (interruptsPart interrupts).accepts json) :
      (interruptsPart interrupts).accepts other :=
    SortedMap.isObjectOf_reordered (fun _ _ _ hvalue => eq_of_reordered rfl hvalue) h hreordered
  cases state with
  | pinBound pins settings interrupts =>
    simp only [parts, List.mem_cons, List.not_mem_nil, or_false] at hpart
    rcases hpart with rfl | rfl | rfl
    · exact hpins h
    · exact hsettings h
    · exact hinterrupts h
  | interruptOnly interrupt settings =>
    simp only [parts, List.mem_cons, List.not_mem_nil, or_false] at hpart
    rcases hpart with rfl | rfl
    · exact eq_of_reordered rfl hreordered h
    · exact hsettings h
  | global enabled settings interrupts =>
    simp only [parts, List.mem_cons, List.not_mem_nil, or_false] at hpart
    rcases hpart with rfl | rfl | rfl
    · exact eq_of_reordered rfl hreordered h
    · exact hsettings h
    · exact hinterrupts h

theorem State.IsWrittenAs.reordered {state : State} {json other : Json}
    (h : state.IsWrittenAs json) (hreordered : json.Reordered other) : state.IsWrittenAs other :=
  Json.IsObjectOf.reordered h (fun _ hpart _ _ hvalue => State.accepts_reordered hpart hvalue)
    hreordered

/-- The order of members does not matter to what a tree says. -/
theorem Configuration.IsWrittenAs.reordered {configuration : Configuration} {json other : Json}
    (h : configuration.IsWrittenAs json) (hreordered : json.Reordered other) :
    configuration.IsWrittenAs other :=
  SortedMap.isObjectOf_reordered (fun _ _ _ hvalue hstate => hstate.reordered hvalue) h hreordered

/-! ## Precision -/

/-- An integer fits into the precision that JSON numbers are read with. -/
def Value.IsPrecise : Value → Prop
  | .int number => number.natAbs ≤ 2 ^ JsonNumber.precision
  | _ => True

/-- All integers of a record fit into the precision. -/
def Settings.IsPrecise (settings : Settings) : Prop := ∀ entry ∈ settings.entries, entry.2.IsPrecise

/-- All integers of a state fit into the precision. -/
def State.IsPrecise (state : State) : Prop :=
  state.settings.IsPrecise ∧ ∀ entry ∈ state.pinSettings.entries, entry.2.IsPrecise

/-- All integers of a configuration fit into the precision. -/
def Configuration.IsPrecise (configuration : Configuration) : Prop :=
  ∀ entry ∈ configuration.entries, entry.2.IsPrecise

instance : DecidablePred Value.IsPrecise
  | .text _ => .isTrue trivial
  | .int number => inferInstanceAs (Decidable (number.natAbs ≤ 2 ^ JsonNumber.precision))
  | .bool _ => .isTrue trivial

instance : DecidablePred Settings.IsPrecise := fun settings =>
  inferInstanceAs (Decidable (∀ entry ∈ settings.entries, entry.2.IsPrecise))

instance : DecidablePred State.IsPrecise := fun state =>
  inferInstanceAs (Decidable (state.settings.IsPrecise ∧
    ∀ entry ∈ state.pinSettings.entries, entry.2.IsPrecise))

instance : DecidablePred Configuration.IsPrecise := fun configuration =>
  inferInstanceAs (Decidable (∀ entry ∈ configuration.entries, entry.2.IsPrecise))

/-! ## Writing -/

/-- A value as JSON. -/
def Value.toJson : Value → Json
  | .text content => .string content
  | .int number => .number (.ofInt number)
  | .bool flag => .bool flag

/-- A record as JSON. -/
def Settings.toJson (settings : Settings) : Json := SortedMap.toJson settings id Value.toJson

/-- The members of a state. -/
def State.members : State → List (String × Json)
  | pinBound pins settings interrupts =>
    [("pins", pins.toJson Pin.name Settings.toJson), ("settings", settings.toJson),
      ("interrupts", interrupts.toJson id .bool)]
  | interruptOnly interrupt settings =>
    [("interrupt", .string interrupt), ("settings", settings.toJson)]
  | global enabled settings interrupts =>
    [("enabled", .bool enabled), ("settings", settings.toJson),
      ("interrupts", interrupts.toJson id .bool)]

/-- A state as JSON. -/
def State.toJson (state : State) : Json := .object state.members

/-- A configuration as JSON. -/
def Configuration.toJson (configuration : Configuration) : Json :=
  SortedMap.toJson configuration Peripheral.name State.toJson

theorem Value.isWrittenAs_toJson {value : Value} (h : value.IsPrecise) :
    value.IsWrittenAs value.toJson := by
  cases value with
  | text content => exact .text content
  | int number => exact .int (JsonNumber.standsFor_ofInt h)
  | bool flag => exact .bool flag

theorem Settings.isWrittenAs_toJson {settings : Settings} (h : settings.IsPrecise) :
    settings.IsWrittenAs settings.toJson :=
  SortedMap.isObjectOf_toJson Function.injective_id fun entry hentry =>
    Value.isWrittenAs_toJson (h entry hentry)

/-- No two parts of a state have the same name. -/
theorem State.nodup_names (state : State) : (state.parts.map Json.Part.name).Nodup := by
  cases state with
  | pinBound => exact (by decide : ["pins", "settings", "interrupts"].Nodup)
  | interruptOnly => exact (by decide : ["interrupt", "settings"].Nodup)
  | global => exact (by decide : ["enabled", "settings", "interrupts"].Nodup)

theorem State.isWrittenAs_toJson {state : State} (h : state.IsPrecise) :
    state.IsWrittenAs state.toJson := by
  obtain ⟨hshared, hgiven⟩ := h
  have hsettings : state.settings.IsWrittenAs state.settings.toJson :=
    Settings.isWrittenAs_toJson hshared
  have hinterrupts (interrupts : InterruptSwitches) :
      (interruptsPart interrupts).accepts (interrupts.toJson id .bool) :=
    SortedMap.isObjectOf_toJson Function.injective_id fun _ _ => rfl
  refine ⟨state.members, rfl, Json.HasParts.of_forall₂ state.nodup_names ?_⟩
  cases state with
  | pinBound pins settings interrupts =>
    have hpins : (pinsPart pins).accepts (pins.toJson Pin.name Settings.toJson) :=
      SortedMap.isObjectOf_toJson (fun _ _ => Pin.name_injective) fun entry hentry =>
        Settings.isWrittenAs_toJson (hgiven entry hentry)
    exact .cons ⟨rfl, hpins⟩ (.cons ⟨rfl, hsettings⟩ (.cons ⟨rfl, hinterrupts interrupts⟩ .nil))
  | interruptOnly interrupt settings =>
    exact .cons ⟨rfl, rfl⟩ (.cons ⟨rfl, hsettings⟩ .nil)
  | global enabled settings interrupts =>
    exact .cons ⟨rfl, rfl⟩ (.cons ⟨rfl, hsettings⟩ (.cons ⟨rfl, hinterrupts interrupts⟩ .nil))

/-- Every configuration can be written, if its integers fit into the precision. -/
theorem Configuration.isWrittenAs_toJson {configuration : Configuration}
    (h : configuration.IsPrecise) : configuration.IsWrittenAs configuration.toJson :=
  SortedMap.isObjectOf_toJson (fun _ _ => Peripheral.name_injective) fun entry hentry =>
    State.isWrittenAs_toJson (h entry hentry)

/-! ## Reading -/

namespace Configuration

/-- An object with the parts of a map is read as this map, if each of its entries is. -/
theorem mapOf_eq_ok {α β : Type} [Ord α] [DecidableEq α] [Std.TransOrd α] [Std.LawfulEqOrd α]
    {map : SortedMap α β} {name : α → String} {accepts : β → Json → Prop}
    {read : String → Json → Except Failure (α × β)} {members : List (String × Json)}
    (h : Json.HasParts (map.parts name accepts) members)
    (hread : ∀ entry ∈ map.entries, ∀ json, accepts entry.2 json →
      read (name entry.1) json = .ok entry) : mapOf read members = .ok map := by
  have hmember : ∀ member ∈ members, ∃ entry ∈ map.entries,
      read member.1 member.2 = .ok entry := by
    intro member hmember
    obtain ⟨part, hpart, hname, haccepts⟩ := h.only member hmember
    obtain ⟨entry, hentry, rfl⟩ := List.mem_map.mp hpart
    refine ⟨entry, hentry, ?_⟩
    rw [← hname]
    exact hread entry hentry member.2 haccepts
  have hentry : ∀ entry ∈ map.entries, ∃ member ∈ members,
      read member.1 member.2 = .ok entry := by
    intro entry hentry
    obtain hoptional | ⟨json, hmem, haccepts⟩ := h.all _ (List.mem_map_of_mem hentry)
    · exact hoptional.elim
    · exact ⟨_, hmem, hread entry hentry json haccepts⟩
  obtain ⟨entries, hentries, hmem⟩ := exists_mapM_eq_ok fun member hmem =>
    (hmember member hmem).imp fun _ hread => hread.2
  have hsame : ∀ entry, entry ∈ entries ↔ entry ∈ map.entries := by
    intro entry
    rw [hmem]
    constructor
    · rintro ⟨member, hin, hresult⟩
      obtain ⟨found, hfound, hread⟩ := hmember member hin
      rw [hread] at hresult
      cases hresult
      exact hfound
    · exact hentry entry
  exact map_eq_ok_iff.mpr ⟨entries, hentries, SortedMap.ofList_eq hsame⟩

theorem valueOf_eq_ok {value : Value} {json : Json} (h : value.IsWrittenAs json)
    (hprecise : value.IsPrecise) (key : String) : valueOf key json = .ok value := by
  cases h with
  | text content => rfl
  | bool flag => rfl
  | int hnumber => simp only [valueOf, hnumber.toInt64?_eq_some hprecise]

/-- The members that a record is written with are read as this record. -/
theorem settingsOf_eq_ok {settings : Settings} {members : List (String × Json)}
    (h : Json.HasParts (settings.parts id Value.IsWrittenAs) members)
    (hprecise : settings.IsPrecise) : settingsOf members = .ok settings := by
  refine mapOf_eq_ok h fun entry hentry json hjson => ?_
  rw [valueOf_eq_ok hjson (hprecise entry hentry)]
  rfl

section

variable {parts : List Json.Part} {members : List (String × Json)}

/-- The settings of a state are read, whether they are left out or not. -/
theorem sharedSettings_eq_ok (h : Json.HasParts parts members)
    (hnames : (parts.map Json.Part.name).Nodup) {settings : Settings}
    (hpart : State.settingsPart settings ∈ parts) (hprecise : settings.IsPrecise)
    (place : String) : sharedSettings place members = .ok settings := by
  have hcases : Json.member? "settings" members = none ∧ settings = ∅ ∨
      ∃ json, Json.member? "settings" members = some json ∧ settings.IsWrittenAs json :=
    h.member?_cases hnames hpart
  unfold sharedSettings
  obtain ⟨hnone, rfl⟩ | ⟨json, hfound, inner, rfl, hinner⟩ := hcases
  · rw [hnone]
  · rw [hfound]
    exact settingsOf_eq_ok hinner hprecise

/-- The interrupts of a state are read, whether they are left out or not. -/
theorem switchesOf_eq_ok (h : Json.HasParts parts members)
    (hnames : (parts.map Json.Part.name).Nodup) {interrupts : InterruptSwitches}
    (hpart : State.interruptsPart interrupts ∈ parts) (place : String) :
    switchesOf place members = .ok interrupts := by
  have hcases : Json.member? "interrupts" members = none ∧ interrupts = ∅ ∨
      ∃ json, Json.member? "interrupts" members = some json ∧
        Json.IsObjectOf (interrupts.parts id fun enabled json => json = .bool enabled) json :=
    h.member?_cases hnames hpart
  unfold switchesOf
  obtain ⟨hnone, rfl⟩ | ⟨json, hfound, inner, rfl, hinner⟩ := hcases
  · rw [hnone]
  · simp only [hfound, membersOf, bind, Except.bind]
    refine mapOf_eq_ok hinner fun entry _ json hjson => ?_
    rw [hjson]
    rfl

end

/-- The members that pins are written with are read as these pins. -/
theorem pins_eq_ok {pins : SortedMap Pin Settings} {members : List (String × Json)}
    (h : Json.HasParts (pins.parts Pin.name Settings.IsWrittenAs) members)
    (hprecise : ∀ entry ∈ pins.entries, entry.2.IsPrecise) (place : String) :
    mapOf (pinOf place) members = .ok pins := by
  refine mapOf_eq_ok h fun (pin, given) hentry json hjson => ?_
  obtain ⟨inner, rfl, hinner⟩ := hjson
  have hpin : Pin.ofName pin.name = .ok pin := by rw [Pin.ofName, Pin.ofName?_name]
  have hgiven : settingsOf inner = .ok given := settingsOf_eq_ok hinner (hprecise _ hentry)
  simp only [pinOf, hpin, Except.mapError, membersOf, bind, Except.bind, hgiven]
  rfl

/-- A state is read from the members that it is written with. -/
theorem stateOf_eq_ok {state : State} {members : List (String × Json)}
    (h : Json.HasParts state.parts members) (hprecise : state.IsPrecise)
    (peripheral : Peripheral) : stateOf peripheral members = .ok state := by
  obtain ⟨hshared, hgiven⟩ := hprecise
  have hnames := state.nodup_names
  have hsettings : sharedSettings peripheral.name members = .ok state.settings :=
    sharedSettings_eq_ok h hnames (by cases state <;> simp [State.parts, State.settings]) hshared _
  cases state with
  | pinBound pins settings interrupts =>
    obtain ⟨json, hfound, inner, rfl, hinner⟩ : ∃ json, Json.member? "pins" members = some json ∧
        Json.IsObjectOf (pins.parts Pin.name Settings.IsWrittenAs) json :=
      h.exists_member? hnames List.mem_cons_self id
    have hpins := pins_eq_ok hinner hgiven (peripheral.name ++ ".pins")
    have hinterrupts : switchesOf peripheral.name members = .ok interrupts :=
      switchesOf_eq_ok h hnames (by simp [State.parts]) _
    simp only [stateOf, hsettings, hfound, membersOf, bind, Except.bind, hpins, hinterrupts]
    rfl
  | interruptOnly interrupt settings =>
    have hpins : Json.member? "pins" members = none :=
      h.member?_eq_none (by simp [State.parts, State.settingsPart])
    obtain ⟨json, hfound, rfl⟩ : ∃ json, Json.member? "interrupt" members = some json ∧
        json = .string interrupt := h.exists_member? hnames List.mem_cons_self id
    simp only [stateOf, hsettings, hpins, hfound, stringOf, bind, Except.bind]
    rfl
  | global enabled settings interrupts =>
    have hpins : Json.member? "pins" members = none :=
      h.member?_eq_none (by simp [State.parts, State.settingsPart, State.interruptsPart])
    have hinterrupt : Json.member? "interrupt" members = none :=
      h.member?_eq_none (by simp [State.parts, State.settingsPart, State.interruptsPart])
    obtain ⟨json, hfound, rfl⟩ : ∃ json, Json.member? "enabled" members = some json ∧
        json = .bool enabled := h.exists_member? hnames List.mem_cons_self id
    have hinterrupts : switchesOf peripheral.name members = .ok interrupts :=
      switchesOf_eq_ok h hnames (by simp [State.parts]) _
    simp only [stateOf, hsettings, hpins, hinterrupt, hfound, boolOf, bind, Except.bind,
      hinterrupts]
    rfl

/-- A configuration is read from any tree that says it. -/
theorem ofJson_eq_ok {configuration : Configuration} {json : Json}
    (h : configuration.IsWrittenAs json) (hprecise : configuration.IsPrecise) :
    ofJson json = .ok configuration := by
  obtain ⟨members, rfl, hmembers⟩ := h
  refine mapOf_eq_ok hmembers fun (peripheral, state) hentry json hjson => ?_
  obtain ⟨inner, rfl, hinner⟩ := hjson
  have hperipheral : Peripheral.ofName peripheral.name = .ok peripheral := by
    rw [Peripheral.ofName, Peripheral.ofName?_name]
  have hstate : stateOf peripheral inner = .ok state := stateOf_eq_ok hinner (hprecise _ hentry) _
  simp only [entryOf, hperipheral, Except.mapError, membersOf, bind, Except.bind, hstate]
  rfl

/-- Every configuration can be written, if its integers fit into the precision. However that is
done, it is read as this configuration, and so is the same in another order of members. -/
theorem read_in_any_order {configuration : Configuration} (hprecise : configuration.IsPrecise) :
    (∃ json, configuration.IsWrittenAs json) ∧
      ∀ json, configuration.IsWrittenAs json → ofJson json = .ok configuration ∧
        ∀ other, json.Reordered other → ofJson other = .ok configuration := by
  refine ⟨⟨_, isWrittenAs_toJson hprecise⟩, fun json hwritten => ⟨?_, fun other hreordered => ?_⟩⟩
  · exact ofJson_eq_ok hwritten hprecise
  · exact ofJson_eq_ok (hwritten.reordered hreordered) hprecise

/-- The three shapes of a state: a pin, only an interrupt, and a switch. -/
def threeShapes : Configuration :=
  SortedMap.ofList
    [(.gpio, .pinBound (.ofList [(Atmega328p.pinAt .b 5, .ofList [("mode", .text "OUTPUT")])]) ∅ ∅),
      (.timer0, .interruptOnly "overflow" (.ofList [("prescaler", .int 1024)])),
      (.watchdog, .global true ∅ ∅)]

/-- The members for the three shapes, with all that may be left out left out. -/
def threeMembers : List (String × Json) :=
  [("gpio", .object [("pins", .object [("PB5", .object [("mode", .string "OUTPUT")])])]),
    ("timer0", .object
      [("interrupt", .string "overflow"),
        ("settings", .object [("prescaler", .number (.ofInt 1024))])]),
    ("wdt", .object [("enabled", .bool true)])]

theorem read_in_any_order_three_shapes :
    ofJson (.object threeMembers) = .ok threeShapes ∧
      ofJson (.object threeMembers.reverse) = .ok threeShapes := by
  have hprecise : threeShapes.IsPrecise := by decide +kernel
  have hmode : Settings.IsWrittenAs (.ofList [("mode", .text "OUTPUT")])
      (.object [("mode", .string "OUTPUT")]) :=
    ⟨_, rfl, .cons .nil (by decide) (.text "OUTPUT")⟩
  have hpin : State.IsWrittenAs
      (.pinBound (.ofList [(Atmega328p.pinAt .b 5, .ofList [("mode", .text "OUTPUT")])]) ∅ ∅)
      (.object [("pins", .object [("PB5", .object [("mode", .string "OUTPUT")])])]) :=
    ⟨_, rfl, .cons (.leaveOut (.leaveOut .nil rfl) rfl) (by decide)
      ⟨_, rfl, .cons .nil (by decide) hmode⟩⟩
  have hprescaler : Settings.IsWrittenAs (.ofList [("prescaler", .int 1024)])
      (.object [("prescaler", .number (.ofInt 1024))]) :=
    ⟨_, rfl, .cons .nil (by decide) (.int (JsonNumber.standsFor_ofInt (by decide)))⟩
  have hinterrupt : State.IsWrittenAs
      (.interruptOnly "overflow" (.ofList [("prescaler", .int 1024)]))
      (.object [("interrupt", .string "overflow"),
        ("settings", .object [("prescaler", .number (.ofInt 1024))])]) :=
    ⟨_, rfl, .cons (.cons .nil (by decide) hprescaler) (by decide) rfl⟩
  have hswitch : State.IsWrittenAs (.global true ∅ ∅) (.object [("enabled", .bool true)]) :=
    ⟨_, rfl, .cons (.leaveOut (.leaveOut .nil rfl) rfl) (by decide) rfl⟩
  have hwritten : threeShapes.IsWrittenAs (.object threeMembers) :=
    ⟨_, rfl, .cons (.cons (.cons .nil (by decide) hswitch) (by decide) hinterrupt)
      (by decide) hpin⟩
  have hread := (read_in_any_order hprecise).2 _ hwritten
  exact ⟨hread.1, hread.2 _ (.members threeMembers.reverse_perm.symm)⟩

end Configuration

end AvrSetup
