import IbanWatch.Config.Load

/-!
# What the layers say of the fields

Nine fields are configured, each by a name in one of two tables.  A layer of settings may give a
field inside the table or by a path to it, in any letter case, and may give much else besides.  The
layers are laid over one another as trees; here it is shown that field by field the last layer that
gives a value decides, and that whatever else is in a layer leaves the fields alone.  The invariant
is that the two tables are tables.

## Main definitions

* `Field`, with `Field.table` and `Field.name` — the fields and where they are.
* `steps` — the way that a key at the top of a layer spells, in lower case.
* `Layer.givenBy`, `Layer.gives` — the values that an entry and a layer give to a field.
* `Layer.IsPlain` — the tables are given as tables, and each field at most once, by a scalar.
* `Tree.field?` — the value of a field in a tree.
* `decisive?` — the value of a field in the last layer that gives one.

## Main results

* `exists_ofKey` — a path begins with a name.
* `field?_overlayMembers`, `field?_writeEntry` — what a table and an entry of a layer change.
* `decisive?_eq_some_iff`, `decisive?_eq_none_iff` — what it means to be decisive.
* `field?_addLayers` — **the last layer that gives a field decides.**
-/

namespace IbanWatch.Config

open Text

/-! ### Fields -/

/-- What can be configured. -/
inductive Field where
  /-- The addresses of the brokers. -/
  | brokers
  /-- The group of readers. -/
  | groupId
  /-- The topic that is watched. -/
  | topic
  /-- The topic for alerts. -/
  | alertTopic
  /-- Where a new group begins to read. -/
  | autoOffsetReset
  /-- Whether the end of a partition is reported. -/
  | enablePartitionEof
  /-- After how many milliseconds a silent reader is given up. -/
  | sessionTimeout
  /-- How long a poll may take. -/
  | pollTimeout
  /-- How long a flush may take. -/
  | flushTimeout
  deriving DecidableEq, Repr

namespace Field

/-- All fields, as they are declared. -/
def all : List Field :=
  [brokers, groupId, topic, alertTopic, autoOffsetReset, enablePartitionEof, sessionTimeout,
    pollTimeout, flushTimeout]

theorem mem_all (f : Field) : f ∈ all := by cases f <;> decide

instance {p : Field → Prop} [DecidablePred p] : Decidable (∀ f, p f) :=
  decidable_of_iff (∀ f ∈ all, p f) ⟨fun h f => h f f.mem_all, fun h f _ => h f⟩

/-- The table that the field is in. -/
def table : Field → String
  | brokers | groupId | topic | alertTopic | autoOffsetReset | enablePartitionEof
  | sessionTimeout => "kafka"
  | pollTimeout | flushTimeout => "detection"

/-- The name of the field in its table. -/
def name : Field → String
  | brokers => "brokers"
  | groupId => "group_id"
  | topic => "topic"
  | alertTopic => "alert_topic"
  | autoOffsetReset => "auto_offset_reset"
  | enablePartitionEof => "enable_partition_eof"
  | sessionTimeout => "session_timeout_ms"
  | pollTimeout => "poll_timeout_ms"
  | flushTimeout => "flush_timeout_ms"

/-- The field in full. -/
def key (f : Field) : String := s!"{f.table}.{f.name}"

end Field

/-! ### Layers -/

/-- A layer of settings. -/
abbrev Layer := Keyed Tree

/-- A step by a name, in lower case, or `none` for one by a number. -/
def Step.name? : Step → Option String
  | .member key => some (lower key)
  | .item _ => none

/-- The way that a key at the top of a layer spells. -/
def steps (key : String) : List (Option String) := (Path.ofKey (lower key)).map Step.name?

/-- The values under a name. -/
def valuesOf (name : String) (members : Keyed Tree) : List Tree :=
  members.filterMap fun (key, value) => if lower key = name then some value else none

namespace Layer

/-- The values that something at the end of a way gives to a field: inside its table, or right at
the field. -/
def givenAt (f : Field) (value : Tree) : List (Option String) → List Tree
  | [some table] => if table = f.table then valuesOf f.name value.members else []
  | [some table, some name] => if table = f.table ∧ name = f.name then [value] else []
  | _ => []

/-- The values that an entry of a layer gives to a field. -/
def givenBy (f : Field) (key : String) (value : Tree) : List Tree := givenAt f value (steps key)

/-- The values that a layer gives to a field. -/
def gives (layer : Layer) (f : Field) : List Tree :=
  layer.flatMap fun (key, value) => givenBy f key value

end Layer

/-- Whether the value has no parts. -/
def Tree.isAtom : Tree → Bool
  | .atom _ _ => true
  | .nothing | .list _ _ | .table _ _ => false

/-- Whether the value is a table. -/
def Tree.isTable : Tree → Bool
  | .table _ _ => true
  | .nothing | .atom _ _ | .list _ _ => false

namespace Layer

/-- Something at the end of a way leaves the table of a field a table: it is one itself, or the way
goes on in the table by a name, and not beyond the field. -/
def KeepsTableAt (f : Field) (value : Tree) : List (Option String) → Prop
  | [some table] => table = f.table → value.isTable = true
  | some table :: some name :: _ :: _ => ¬ (table = f.table ∧ name = f.name)
  | some table :: none :: _ => table ≠ f.table
  | _ => True

instance decidableKeepsTableAt (f : Field) (value : Tree) :
    (way : List (Option String)) → Decidable (KeepsTableAt f value way)
  | [some table] => inferInstanceAs (Decidable (table = f.table → value.isTable = true))
  | some table :: some name :: _ :: _ =>
    inferInstanceAs (Decidable (¬ (table = f.table ∧ name = f.name)))
  | some table :: none :: _ => inferInstanceAs (Decidable (table ≠ f.table))
  | [] | [some _, some _] | none :: _ => isTrue trivial

/-- An entry of a layer leaves the table of a field a table. -/
def KeepsTable (f : Field) (key : String) (value : Tree) : Prop := KeepsTableAt f value (steps key)

instance (f : Field) (key : String) (value : Tree) : Decidable (KeepsTable f key value) :=
  inferInstanceAs (Decidable (KeepsTableAt f value (steps key)))

/-- The layer gives the tables as tables and each field at most once, by a scalar. -/
structure IsPlain (layer : Layer) : Prop where
  tables : ∀ f, ∀ entry ∈ layer, KeepsTable f entry.1 entry.2
  scalars : ∀ f, ∀ value ∈ layer.gives f, value.isAtom = true
  once : ∀ f, (layer.gives f).length ≤ 1

instance (layer : Layer) : Decidable layer.IsPlain :=
  decidable_of_iff
    ((∀ f, ∀ entry ∈ layer, KeepsTable f entry.1 entry.2)
      ∧ (∀ f, ∀ value ∈ layer.gives f, value.isAtom = true) ∧ ∀ f, (layer.gives f).length ≤ 1)
    ⟨fun ⟨tables, scalars, once⟩ => ⟨tables, scalars, once⟩, fun h => ⟨h.tables, h.scalars, h.once⟩⟩

end Layer

/-- The value that the last of some layers gives to a field, if one gives any. -/
def decisive? (layers : List Layer) (f : Field) : Option Tree :=
  layers.reverse.findSome? fun layer => (layer.gives f).head?

/-! ### Paths -/

namespace Path

/-- A name is read as a step by a name. -/
theorem exists_of_name {s rest : List Char} {step : Step} (h : name s = some (step, rest)) :
    ∃ key, step = .member key := by
  rw [name] at h
  simp only [Functor.map, StateT.map, Option.bind_eq_bind, Option.pure_def] at h
  obtain ⟨⟨letters, left⟩, -, hfound⟩ := Option.bind_eq_some_iff.mp h
  cases hfound
  exact ⟨_, rfl⟩

/-- **A path begins with a name**, so it leads into a table. -/
theorem exists_ofKey (key : String) : ∃ first more, ofKey key = .member first :: more := by
  rw [ofKey]
  cases h : reader key.toList with
  | none => exact ⟨key, [], rfl⟩
  | some found =>
    obtain ⟨path, rest⟩ := found
    simp only [reader, bind, StateT.bind] at h
    -- The reader takes a name before it takes anything else.
    obtain ⟨⟨first, left⟩, hfirst, h⟩ := Option.bind_eq_some_iff.mp h
    obtain ⟨⟨more, left'⟩, -, h⟩ := Option.bind_eq_some_iff.mp h
    obtain ⟨⟨done, left''⟩, -, h⟩ := Option.bind_eq_some_iff.mp h
    obtain ⟨name, rfl⟩ := exists_of_name hfirst
    cases h
    exact ⟨name, more, rfl⟩

end Path

/-! ### Trees -/

namespace Tree

/-- The value of a field. -/
def field? (t : Tree) (f : Field) : Option Tree :=
  (t.members.find? f.table).bind fun inner => inner.members.find? f.name

/-- What stands in the place of the table of a field is a table. -/
def HasTable (f : Field) (t : Tree) : Prop :=
  ∀ inner, t.members.find? f.table = some inner → inner.isTable = true

theorem members_setMember (t : Tree) (key : String) (value : Tree) :
    (t.setMember key value).members = Keyed.set key value t.members := by
  cases t <;> rfl

theorem isTable_setMember (t : Tree) (key : String) (value : Tree) :
    (t.setMember key value).isTable = true := by
  cases t <;> rfl

theorem overlay_of_isAtom {value : Tree} (h : value.isAtom = true) (existing : Option Tree) :
    overlay existing value = value := by
  cases value with
  | nothing => cases h
  | atom a origin => rfl
  | list items origin => cases h
  | table members origin => cases h

theorem overlayMembers_cons (t : Tree) (key : String) (value : Tree) (rest : Keyed Tree) :
    t.overlayMembers ((key, value) :: rest)
      = (t.setMember (lower key)
        (overlay (t.members.find? (lower key)) value)).overlayMembers rest := rfl

theorem isTable_overlayMembers {t : Tree} (h : t.isTable = true) (members : Keyed Tree) :
    (t.overlayMembers members).isTable = true := by
  induction members generalizing t with
  | nil => exact h
  | cons entry rest ih => exact ih (isTable_setMember _ _ _)

/-- What a name has after members were laid over a table: the last value under that name, if these
are scalars. -/
theorem find?_overlayMembers {name : String} {members : Keyed Tree}
    (h : ∀ value ∈ valuesOf name members, value.isAtom = true) (t : Tree) :
    (t.overlayMembers members).members.find? name
      = (valuesOf name members).getLast?.or (t.members.find? name) := by
  induction members generalizing t with
  | nil => rfl
  | cons entry rest ih =>
    obtain ⟨key, value⟩ := entry
    by_cases hkey : lower key = name
    · -- It stands until a later member has the same name.
      have hvalues : valuesOf name ((key, value) :: rest) = value :: valuesOf name rest := by
        simp [valuesOf, hkey]
      rw [hvalues] at h ⊢
      have hrest : ∀ v ∈ valuesOf name rest, v.isAtom = true :=
        fun v hv => h v (List.mem_cons_of_mem _ hv)
      rw [overlayMembers_cons, ih hrest, members_setMember, Keyed.find?_set, if_pos hkey,
        overlay_of_isAtom (h value List.mem_cons_self), List.getLast?_cons]
      cases (valuesOf name rest).getLast? <;> rfl
    · have hvalues : valuesOf name ((key, value) :: rest) = valuesOf name rest := by
        simp [valuesOf, hkey]
      rw [hvalues] at h ⊢
      rw [overlayMembers_cons, ih h, members_setMember, Keyed.find?_set, if_neg hkey]

end Tree

/-! ### One entry -/

namespace Tree

section Entry

variable {f : Field} {t inner : Tree}

theorem field?_setMember_table :
    (t.setMember f.table inner).field? f = inner.members.find? f.name := by
  rw [field?, members_setMember, Keyed.find?_set, if_pos rfl, Option.bind_some]

theorem hasTable_setMember_table (h : inner.isTable = true) :
    (t.setMember f.table inner).HasTable f := by
  intro found hfound
  rw [members_setMember, Keyed.find?_set, if_pos rfl] at hfound
  cases hfound
  exact h

theorem field?_setMember_of_ne {key : String} (inner : Tree) (hkey : key ≠ f.table)
    (ht : t.HasTable f) :
    (t.setMember key inner).HasTable f ∧ (t.setMember key inner).field? f = t.field? f := by
  constructor
  · intro found hfound
    rw [members_setMember, Keyed.find?_set, if_neg hkey] at hfound
    exact ht found hfound
  · rw [field?, members_setMember, Keyed.find?_set, if_neg hkey, field?]

theorem find?_getD_nothing (t : Tree) (f : Field) :
    ((t.members.find? f.table).getD .nothing).members.find? f.name = t.field? f := by
  rw [field?]
  cases t.members.find? f.table <;> rfl

/-- A table is laid over the table of a field. -/
theorem field?_overlayMember {first : String} {members : Keyed Tree} {origin : Option Origin}
    (hfirst : lower first = f.table)
    (hvalues : ∀ v ∈ valuesOf f.name members, v.isAtom = true) (ht : t.HasTable f) :
    (t.overlayMember first (.table members origin)).HasTable f
      ∧ (t.overlayMember first (.table members origin)).field? f
        = (valuesOf f.name members).getLast?.or (t.field? f) := by
  rw [overlayMember, hfirst, overlay]
  constructor
  -- A field whose table is missing gets an empty one first.
  · refine hasTable_setMember_table (isTable_overlayMembers ?_ _)
    cases hold : t.members.find? f.table with
    | none => rfl
    | some old => exact ht old hold
  · rw [field?_setMember_table, find?_overlayMembers hvalues, field?]
    cases t.members.find? f.table <;> rfl

theorem write_member_cons (value : Tree) (key : String) (step : Step) (more : Path) (t : Tree) :
    write value (.member key :: step :: more) t = t.setMember (lower key)
      (write value (step :: more) ((t.members.find? (lower key)).getD .nothing)) := rfl

/-- Something is written under a name in the table of a field. -/
theorem field?_write_member (t : Tree) {value : Tree} {first second : String} {more : Path}
    (hfirst : lower first = f.table) (hmore : lower second = f.name → more = [])
    (hvalue : lower second = f.name → value.isAtom = true) :
    (write value (.member first :: .member second :: more) t).HasTable f
      ∧ (write value (.member first :: .member second :: more) t).field? f
        = if lower second = f.name then some value else t.field? f := by
  rw [write_member_cons, hfirst]
  have hold := find?_getD_nothing t f
  generalize (t.members.find? f.table).getD .nothing = old at hold ⊢
  -- Whatever follows, the table gets a member under the second name.
  obtain ⟨new, hnew, heq⟩ : ∃ new, write value (.member second :: more) old
      = old.setMember (lower second) new ∧ (lower second = f.name → new = value) := by
    cases more with
    | nil =>
      refine ⟨_, rfl, fun hname => ?_⟩
      exact overlay_of_isAtom (hvalue hname) _
    | cons step rest => exact ⟨_, rfl, fun hname => absurd (hmore hname) (List.cons_ne_nil _ _)⟩
  rw [hnew]
  refine ⟨hasTable_setMember_table (isTable_setMember _ _ _), ?_⟩
  rw [field?_setMember_table, members_setMember, Keyed.find?_set]
  by_cases hname : lower second = f.name
  · rw [if_pos hname, if_pos hname, heq hname]
  · rw [if_neg hname, if_neg hname, hold]

/-- What leads elsewhere from its first step on leaves a field as it is, and gives it nothing. -/
theorem field?_write_elsewhere (value : Tree) {first : String} (more : Path)
    (hfirst : lower first ≠ f.table) (ht : t.HasTable f) :
    (write value (.member first :: more) t).HasTable f
      ∧ (write value (.member first :: more) t).field? f = t.field? f := by
  obtain ⟨new, hnew⟩ : ∃ new, write value (.member first :: more) t
      = t.setMember (lower first) new := by
    cases more with
    | nil => exact ⟨_, rfl⟩
    | cons step rest => exact ⟨_, rfl⟩
  rw [hnew]
  exact field?_setMember_of_ne new hfirst ht

theorem givenAt_elsewhere {value : Tree} {table : String} (way : List (Option String))
    (htable : table ≠ f.table) : Layer.givenAt f value (some table :: way) = [] := by
  match way with
  | [] => exact if_neg htable
  | [none] => rfl
  | [some name] => exact if_neg fun h => htable h.1
  | none :: _ :: _ => rfl
  | some _ :: _ :: _ => rfl

/-- **What an entry of a layer does to a field**: it gives it the value that it has for it, if it
has one, and else leaves it alone. -/
theorem field?_writeEntry {key : String} {value : Tree} (hkeeps : Layer.KeepsTable f key value)
    (hvalues : ∀ v ∈ Layer.givenBy f key value, v.isAtom = true) (ht : t.HasTable f) :
    (write value (Path.ofKey (lower key)) t).HasTable f
      ∧ (write value (Path.ofKey (lower key)) t).field? f
        = (Layer.givenBy f key value).getLast?.or (t.field? f) := by
  -- The entry goes into the table of the field or elsewhere, and in the table to the field, beyond
  -- it or past it; with nothing behind the table the whole table is laid over.
  obtain ⟨first, more, hpath⟩ := Path.exists_ofKey (lower key)
  have hsteps : steps key = some (lower first) :: more.map Step.name? := by
    rw [steps, hpath]
    rfl
  rw [Layer.KeepsTable, hsteps] at hkeeps
  rw [Layer.givenBy, hsteps] at hvalues ⊢
  rw [hpath]
  by_cases hfirst : lower first = f.table
  · match more with
    | [] =>
      have htable : value.isTable = true := hkeeps hfirst
      have hgiven : Layer.givenAt f value [some (lower first)]
          = valuesOf f.name value.members := if_pos hfirst
      rw [List.map_nil, hgiven] at hvalues ⊢
      cases value with
      | table members origin => exact field?_overlayMember hfirst hvalues ht
      | nothing => cases htable
      | atom a origin => cases htable
      | list items origin => cases htable
    | .item index :: rest => exact absurd hfirst hkeeps
    | [.member second] =>
      have hgiven : Layer.givenAt f value [some (lower first), some (lower second)]
          = if lower second = f.name then [value] else [] := by
        simp only [Layer.givenAt, hfirst, true_and]
      rw [List.map_cons, List.map_nil, Step.name?, hgiven] at hvalues ⊢
      have hatom : lower second = f.name → value.isAtom = true :=
        fun hname => hvalues value (by rw [if_pos hname]; exact List.mem_cons_self)
      obtain ⟨hhas, hfield⟩ := field?_write_member t hfirst (fun _ => rfl) hatom
      refine ⟨hhas, hfield.trans ?_⟩
      by_cases hname : lower second = f.name
      · rw [if_pos hname, if_pos hname]
        rfl
      · rw [if_neg hname, if_neg hname]
        rfl
    | .member second :: step :: rest =>
      have hname : lower second ≠ f.name := fun hname => hkeeps ⟨hfirst, hname⟩
      obtain ⟨hhas, hfield⟩ := field?_write_member t hfirst
        (fun h => absurd h hname : lower second = f.name → step :: rest = [])
        (fun h => absurd h hname : lower second = f.name → value.isAtom = true)
      refine ⟨hhas, hfield.trans ?_⟩
      rw [if_neg hname]
      rfl
  · obtain ⟨hhas, hfield⟩ := field?_write_elsewhere value more hfirst ht
    rw [givenAt_elsewhere _ hfirst]
    exact ⟨hhas, hfield⟩

end Entry

end Tree

/-! ### All layers -/

theorem addLayer_cons (t : Tree) (key : String) (value : Tree) (rest : Layer) :
    addLayer t ((key, value) :: rest)
      = addLayer (Tree.write value (Path.ofKey (lower key)) t) rest := by
  rw [addLayer, addLayer, List.foldl_cons]

theorem Layer.gives_cons (key : String) (value : Tree) (rest : Layer) (f : Field) :
    Layer.gives ((key, value) :: rest) f = givenBy f key value ++ Layer.gives rest f :=
  List.flatMap_cons

/-- What a layer does to a field: the last value that it has for it stays. -/
theorem field?_addLayer {f : Field} {layer : Layer}
    (hkeeps : ∀ entry ∈ layer, Layer.KeepsTable f entry.1 entry.2)
    (hvalues : ∀ value ∈ layer.gives f, value.isAtom = true) {t : Tree} (ht : t.HasTable f) :
    (addLayer t layer).HasTable f
      ∧ (addLayer t layer).field? f = (layer.gives f).getLast?.or (t.field? f) := by
  induction layer generalizing t with
  | nil => exact ⟨ht, rfl⟩
  | cons entry rest ih =>
    obtain ⟨key, value⟩ := entry
    rw [Layer.gives_cons] at hvalues ⊢
    obtain ⟨hhas, hfield⟩ := Tree.field?_writeEntry (hkeeps (key, value) List.mem_cons_self)
      (fun v hv => hvalues v (List.mem_append_left _ hv)) ht
    obtain ⟨hhas', hfield'⟩ := ih (fun entry he => hkeeps entry (List.mem_cons_of_mem _ he))
      (fun v hv => hvalues v (List.mem_append_right _ hv)) hhas
    rw [addLayer_cons]
    -- Of two entries that give the field a value, the later one comes last in both rows.
    refine ⟨hhas', ?_⟩
    rw [hfield', hfield, List.getLast?_append, Option.or_assoc]

theorem decisive?_cons (layer : Layer) (rest : List Layer) (f : Field) :
    decisive? (layer :: rest) f = (decisive? rest f).or (layer.gives f).head? := by
  rw [decisive?, decisive?, List.reverse_cons, List.findSome?_append]
  simp only [List.findSome?_cons, List.findSome?_nil]
  cases (layer.gives f).head? <;> rfl

/-- What it means to be decisive: a layer gives the value, and no later layer gives any. -/
theorem decisive?_eq_some_iff {layers : List Layer} {f : Field} {value : Tree} :
    decisive? layers f = some value ↔ ∃ before layer after, layers = before ++ layer :: after
      ∧ (layer.gives f).head? = some value ∧ ∀ later ∈ after, later.gives f = [] := by
  rw [decisive?, List.findSome?_eq_some_iff]
  -- The layers are searched from the last one on, so what was searched in vain stands behind.
  constructor
  · rintro ⟨after, layer, before, hsplit, hvalue, hnone⟩
    refine ⟨before.reverse, layer, after.reverse, ?_, hvalue, fun later hlater => ?_⟩
    · have hreversed := congrArg List.reverse hsplit
      simpa using hreversed
    · exact List.head?_eq_none_iff.mp (hnone later (List.mem_reverse.mp hlater))
  · rintro ⟨before, layer, after, rfl, hvalue, hnone⟩
    refine ⟨after.reverse, layer, before.reverse, by simp, hvalue, fun later hlater => ?_⟩
    rw [hnone later (List.mem_reverse.mp hlater)]
    rfl

theorem decisive?_eq_none_iff {layers : List Layer} {f : Field} :
    decisive? layers f = none ↔ ∀ layer ∈ layers, layer.gives f = [] := by
  rw [decisive?, List.findSome?_eq_none_iff]
  simp only [List.mem_reverse, List.head?_eq_none_iff]

theorem getLast?_eq_head? {values : List Tree} (h : values.length ≤ 1) :
    values.getLast? = values.head? := by
  match values with
  | [] => rfl
  | [value] => rfl
  | _ :: _ :: _ => simp at h

/-- **The last layer that gives a field decides**, and only what no layer gives stays as it was. -/
theorem field?_addLayers {layers : List Layer} (h : ∀ layer ∈ layers, layer.IsPlain) (f : Field)
    {t : Tree} (ht : t.HasTable f) :
    (layers.foldl addLayer t).HasTable f
      ∧ (layers.foldl addLayer t).field? f = (decisive? layers f).or (t.field? f) := by
  induction layers generalizing t with
  | nil => exact ⟨ht, rfl⟩
  | cons layer rest ih =>
    -- The induction needs the table of the field to be a table, and each layer keeps it one.
    have hplain := h layer List.mem_cons_self
    obtain ⟨hhas, hfield⟩ := field?_addLayer (hplain.tables f) (hplain.scalars f) ht
    obtain ⟨hhas', hfield'⟩ := ih (fun l hl => h l (List.mem_cons_of_mem _ hl)) hhas
    refine ⟨hhas', hfield'.trans ?_⟩
    rw [hfield, decisive?_cons, getLast?_eq_head? (hplain.once f), Option.or_assoc]

end IbanWatch.Config
