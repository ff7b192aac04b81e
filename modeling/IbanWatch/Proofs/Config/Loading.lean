import IbanWatch.Proofs.Config.Fields
import IbanWatch.Proofs.Toml.Reserved

/-!
# Loading the configuration

The configuration is what the last layers say.  Each field gets the value from the last layer that
gives one, or its default; only these values are converted, so what they override may be anything.
Then the brokers and the two topics are looked at.

What is said here is said of settings that can be read.  A file is read as a table unless it is no
document, or begins with the key that is reserved for moments; and a key at the top of a file is a
path, so a key with a point in it may reach into a table that the file does not have.

## Main definitions

* `Setting`, `Config.get` — a value of a field, and the value of a field in a configuration.
* `Field.convert`, `Field.setting` — a value as its field needs it, and the default without one.
* `layers`, `AreRead` — the layers that the surroundings give, and that both files could be read.
* `Reads` — a part of a configuration is read off a tree, or a field is mistyped.
* `Holds`, `Answers` — the configuration with some values, and what loading answers with them.

## Main results

* `collect_eq` — all settings together are the layers, one laid over another.
* `reads_ofTree` — a tree gives a configuration field by field, or names a field that is mistyped.
* `load_answers` — **the last layer that gives a field decides what is loaded.**
* `gives_variable` — which variable gives which field.
* `areRead_of_documents` — documents without the reserved key can be read.
* `load_strange_keys` — keys that look unknown and are not.
-/

namespace IbanWatch.Config

open Text

/-! ### Settings -/

/-- The value of a field. -/
inductive Setting where
  /-- A string. -/
  | text (s : String)
  /-- A truth value. -/
  | truth (b : Bool)
  /-- A count. -/
  | count (n : UInt64)
  deriving DecidableEq, Repr

/-- The value of a field in a configuration. -/
def get (c : Config) : Field → Setting
  | .brokers => .text c.stream.brokers
  | .groupId => .text c.stream.groupId
  | .topic => .text c.stream.topic
  | .alertTopic => .text c.stream.alertTopic
  | .autoOffsetReset => .text c.stream.autoOffsetReset
  | .enablePartitionEof => .truth c.stream.enablePartitionEof
  | .sessionTimeout => .count c.stream.sessionTimeout
  | .pollTimeout => .count c.waits.pollTimeout
  | .flushTimeout => .count c.waits.flushTimeout

namespace Field

/-- The value as this field needs it. -/
def convert : Field → Tree → Except Misfit Setting
  | brokers, tree | groupId, tree | topic, tree | alertTopic, tree | autoOffsetReset, tree =>
    (asText tree).map .text
  | enablePartitionEof, tree => (asTruth tree).map .truth
  | sessionTimeout, tree | pollTimeout, tree | flushTimeout, tree => (asCount tree).map .count

/-- What the field gets from a value, or without one. -/
def setting (f : Field) : Option Tree → Except Fault Setting
  | none => .ok (get {} f)
  | some tree =>
    match f.convert tree with
    | .ok value => .ok value
    | .error misfit => .error (.mistyped misfit.found misfit.expected (some f.key) tree.origin)

end Field

/-! ### The layers -/

/-- The members of a file that could be read, and none of another. -/
def fileLayer (file : Option (String × String)) : Layer := (fileMembers file).toOption.getD []

/-- The layer of the one variable by which brokers are usually given. -/
def brokerLayer (env : Environment) : Layer :=
  (env.find? brokerVariable).toList.map fun brokers =>
    (Field.brokers.key, .atom (.text brokers) none)

/-- The layers in which any field may be given: the two files and the variables. -/
def openLayers (d : Directory) (env : Environment) : List Layer :=
  [fileLayer (defaultFile? d), fileLayer (placeFile? d env), variableSettings env]

/-- All layers, the decisive one last. -/
def layers (d : Directory) (env : Environment) : List Layer :=
  openLayers d env ++ [brokerLayer env]

/-- Either file is missing or a document that says a table. -/
def AreRead (d : Directory) (env : Environment) : Prop :=
  ∀ file ∈ [defaultFile? d, placeFile? d env], (fileMembers file).toOption.isSome = true

instance (d : Directory) (env : Environment) : Decidable (AreRead d env) := by
  unfold AreRead
  infer_instance

theorem lower_key : ∀ f : Field, lower f.key = f.key := by decide +kernel

theorem ofKey_key : ∀ f : Field, Path.ofKey f.key = [.member f.table, .member f.name] := by
  decide +kernel

theorem lower_names : ∀ f : Field, lower f.table = f.table ∧ lower f.name = f.name := by
  decide +kernel

theorem steps_key (f : Field) : steps f.key = [some f.table, some f.name] := by
  obtain ⟨htable, hname⟩ := lower_names f
  rw [steps, lower_key, ofKey_key, List.map_cons, List.map_cons, List.map_nil, Step.name?,
    Step.name?, htable, hname]

theorem fileMembers_eq_ok {file : Option (String × String)}
    (h : (fileMembers file).toOption.isSome = true) :
    fileMembers file = .ok (fileLayer file) := by
  rw [fileLayer]
  cases hm : fileMembers file with
  | error fault => rw [hm] at h; cases h
  | ok members => rfl

/-- **All settings together are the layers**, one laid over another. -/
theorem collect_eq {d : Directory} {env : Environment} (h : AreRead d env) :
    collect d env = .ok ((layers d env).foldl addLayer Tree.emptyTable) := by
  have hdefaults := fileMembers_eq_ok (h _ (List.mem_cons_self))
  have hplaced := fileMembers_eq_ok (h _ (List.mem_cons_of_mem _ List.mem_cons_self))
  rw [collect, hdefaults, hplaced, layers, List.foldl_append, brokerLayer]
  cases env.find? brokerVariable with
  | none => rfl
  | some brokers =>
    -- Writing right at the brokers is laying over them a layer with one key, which spells the path.
    show Except.ok (Tree.write _ brokerPath _) = Except.ok (addLayer _ [(Field.brokers.key, _)])
    rw [addLayer_cons, lower_key, ofKey_key]
    rfl

/-! ### From a tree to a configuration -/

/-- A part of a configuration is read off a tree: it comes to something of which `Q` holds, or it
fails since a field is mistyped. -/
def Reads (t : Tree) {α : Type} (part : Except Fault α) (Q : α → Prop) : Prop :=
  (∃ a, part = .ok a ∧ Q a)
    ∨ ∃ (f : Field) (fault : Fault), part = .error fault ∧ f.setting (t.field? f) = .error fault

section Reads

variable {t : Tree} {α β : Type}

theorem Reads.pure {a : α} {Q : α → Prop} (h : Q a) : Reads t (.ok a) Q := .inl ⟨a, rfl, h⟩

theorem Reads.bind {part : Except Fault α} {next : α → Except Fault β} {P : α → Prop}
    {Q : β → Prop} (h : Reads t part P) (hnext : ∀ a, P a → Reads t (next a) Q) :
    Reads t (part >>= next) Q := by
  rcases h with ⟨a, rfl, ha⟩ | ⟨f, fault, rfl, hf⟩
  · exact hnext a ha
  · exact .inr ⟨f, fault, rfl, hf⟩

/-- The section of a field, where it has to be a table. -/
def sectionOf (t : Tree) (f : Field) : Section :=
  .named ((t.members.find? f.table).getD .nothing).members

theorem reads_section {f : Field} (ht : t.HasTable f) (expected : String) :
    Reads t (Section.of expected (t.members.find? f.table)) fun s => s = sectionOf t f := by
  rw [sectionOf]
  cases hinner : t.members.find? f.table with
  | none => exact .pure rfl
  | some inner =>
    have htable := ht inner hinner
    cases inner with
    | table members origin => exact .pure rfl
    | nothing => cases htable
    | atom a origin => cases htable
    | list items origin => cases htable

/-- **A field is read off its table**, converted as it needs it. -/
theorem reads_field (f : Field) {convert : Tree → Except Misfit α} {wrap : α → Setting}
    {absent : α} (index : Nat) (hconvert : ∀ tree, f.convert tree = (convert tree).map wrap)
    (habsent : get {} f = wrap absent) :
    Reads t ((sectionOf t f).read convert f.table index f.name absent)
      fun a => f.setting (t.field? f) = .ok (wrap a) := by
  have hvalue : (sectionOf t f).value? index f.name = t.field? f := t.find?_getD_nothing f
  rw [Section.read, hvalue]
  cases hfield : t.field? f with
  | none =>
    refine .pure ?_
    rw [Field.setting, habsent]
  | some tree =>
    -- The place of the value in its table goes into the failure, and the field knows it by its
    -- name.
    cases hc : convert tree with
    | ok value =>
      simp only [hc]
      refine .pure ?_
      simp only [Field.setting, hconvert, hc, Except.map]
    | error misfit =>
      simp only [hc]
      refine .inr ⟨f, _, rfl, ?_⟩
      simp only [Field.setting, hfield, hconvert, hc, Except.map]
      rfl

theorem reads_stream (ht : ∀ f, t.HasTable f) :
    Reads t (readStream (t.members.find? "kafka")) fun stream =>
      ∀ waits, ∀ f : Field, f.table = "kafka" →
        f.setting (t.field? f) = .ok (get ⟨stream, waits⟩ f) := by
  -- Once the section is known, each field is read off it in turn, and its equation is kept.
  refine (reads_section (ht .brokers) _).bind fun s hs => ?_
  subst hs
  refine (reads_field .brokers 0 (fun _ => rfl) rfl).bind fun brokers hbrokers => ?_
  refine (reads_field .groupId 1 (fun _ => rfl) rfl).bind fun groupId hgroupId => ?_
  refine (reads_field .topic 2 (fun _ => rfl) rfl).bind fun topic htopic => ?_
  refine (reads_field .alertTopic 3 (fun _ => rfl) rfl).bind fun alertTopic halertTopic => ?_
  refine (reads_field .autoOffsetReset 4 (fun _ => rfl) rfl).bind fun reset hreset => ?_
  refine (reads_field .enablePartitionEof 5 (fun _ => rfl) rfl).bind fun eof heof => ?_
  refine (reads_field .sessionTimeout 6 (fun _ => rfl) rfl).bind fun timeout htimeout => ?_
  refine .pure fun waits f hf => ?_
  cases f with
  | brokers => exact hbrokers
  | groupId => exact hgroupId
  | topic => exact htopic
  | alertTopic => exact halertTopic
  | autoOffsetReset => exact hreset
  | enablePartitionEof => exact heof
  | sessionTimeout => exact htimeout
  | pollTimeout => simp [Field.table] at hf
  | flushTimeout => simp [Field.table] at hf

theorem reads_waits (ht : ∀ f, t.HasTable f) :
    Reads t (readWaits (t.members.find? "detection")) fun waits =>
      ∀ stream, ∀ f : Field, f.table = "detection" →
        f.setting (t.field? f) = .ok (get ⟨stream, waits⟩ f) := by
  refine (reads_section (ht .pollTimeout) _).bind fun s hs => ?_
  subst hs
  refine (reads_field .pollTimeout 0 (fun _ => rfl) rfl).bind fun poll hpoll => ?_
  refine (reads_field .flushTimeout 1 (fun _ => rfl) rfl).bind fun flush hflush => ?_
  -- Each of the two fields has its equation; the others are in the other table.
  refine .pure fun stream f hf => ?_
  cases f with
  | pollTimeout => exact hpoll
  | flushTimeout => exact hflush
  | _ => simp [Field.table] at hf

/-- **A tree gives a configuration field by field**, or names a field that is mistyped. -/
theorem reads_ofTree (ht : ∀ f, t.HasTable f) :
    Reads t (ofTree t) fun c => ∀ f : Field, f.setting (t.field? f) = .ok (get c f) := by
  refine (reads_stream ht).bind fun stream hstream => ?_
  refine (reads_waits ht).bind fun waits hwaits => ?_
  refine .pure fun f => ?_
  have htable : f.table = "kafka" ∨ f.table = "detection" := by
    cases f with
    | pollTimeout => exact .inr rfl
    | flushTimeout => exact .inr rfl
    | _ => exact .inl rfl
  rcases htable with h | h
  · exact hstream waits f h
  · exact hwaits stream f h

end Reads

/-! ### Loading -/

theorem eq_of_table_name : ∀ f g : Field, f.table = g.table → f.name = g.name → f = g := by decide

/-- An entry under the name of a field gives this field its value, and no other field one. -/
theorem givenBy_key (f g : Field) (value : Tree) :
    Layer.givenBy g f.key value = if f = g then [value] else [] := by
  rw [Layer.givenBy, steps_key]
  show (if f.table = g.table ∧ f.name = g.name then [value] else []) = _
  by_cases hfg : f = g
  · subst hfg
    rw [if_pos ⟨rfl, rfl⟩, if_pos rfl]
  · have hne : ¬ (f.table = g.table ∧ f.name = g.name) :=
      fun h => hfg (eq_of_table_name f g h.1 h.2)
    rw [if_neg hne, if_neg hfg]

theorem isPlain_single (f : Field) {value : Tree} (hvalue : value.isAtom = true) :
    Layer.IsPlain [(f.key, value)] := by
  have hgives : ∀ g, Layer.gives [(f.key, value)] g = if f = g then [value] else [] := by
    intro g
    rw [Layer.gives_cons, givenBy_key]
    exact List.append_nil _
  -- The way of the one entry ends at the field, so no table is put at stake.
  refine ⟨fun g entry hentry => ?_, fun g v hv => ?_, fun g => ?_⟩
  · rw [List.mem_singleton.mp hentry, Layer.KeepsTable, steps_key]
    trivial
  · rw [hgives] at hv
    by_cases hfg : f = g
    · rw [if_pos hfg, List.mem_singleton] at hv
      rw [hv, hvalue]
    · rw [if_neg hfg] at hv
      cases hv
  · rw [hgives]
    by_cases hfg : f = g
    · rw [if_pos hfg]
      exact Nat.le_refl 1
    · rw [if_neg hfg]
      exact Nat.zero_le 1

/-- The variable for the brokers gives the brokers and nothing else. -/
theorem isPlain_brokerLayer (env : Environment) : (brokerLayer env).IsPlain := by
  rw [brokerLayer]
  cases env.find? brokerVariable with
  | none => exact ⟨nofun, nofun, fun f => Nat.zero_le 1⟩
  | some brokers => exact isPlain_single .brokers rfl

/-- The configuration has these values, converted, and the defaults of the other fields. -/
structure Holds (given : Field → Option Tree) (c : Config) : Prop where
  defaults : ∀ f, given f = none → get c f = get {} f
  values : ∀ f tree, given f = some tree → f.convert tree = .ok (get c f)

/-- What loading answers when these values are decisive: the values are converted, and only they;
then the brokers are looked at, and then the topics. -/
structure Answers (given : Field → Option Tree) (answer : Except Fault Config) : Prop where
  /-- Where a decisive value cannot be converted, the answer tells of such a value. -/
  mistyped : (∃ f tree misfit, given f = some tree ∧ f.convert tree = .error misfit) →
    ∃ f tree misfit, given f = some tree ∧ f.convert tree = .error misfit
      ∧ answer = .error (.mistyped misfit.found misfit.expected (some f.key) tree.origin)
  /-- Where all can be converted, they make up a configuration, and it is the answer unless the
  brokers or a topic are blank. -/
  typed : (∀ f tree, given f = some tree → ∃ value, f.convert tree = .ok value) →
    ∃ c, Holds given c
        ∧ (answer = .error .missingBroker ↔ IsBlankText c.stream.brokers)
        ∧ (¬ IsBlankText c.stream.brokers →
          IsBlankText c.stream.topic ∨ IsBlankText c.stream.alertTopic →
            answer = .error .emptyTopic)
        ∧ (¬ IsBlankText c.stream.brokers → ¬ IsBlankText c.stream.topic →
          ¬ IsBlankText c.stream.alertTopic → answer = .ok c)

theorem setting_eq_error {f : Field} {given : Option Tree} {fault : Fault}
    (h : f.setting given = .error fault) : ∃ tree misfit, given = some tree
      ∧ f.convert tree = .error misfit
      ∧ fault = .mistyped misfit.found misfit.expected (some f.key) tree.origin := by
  cases given with
  | none => cases h
  | some tree =>
    rw [Field.setting] at h
    cases hc : f.convert tree with
    | ok value => simp [hc] at h
    | error misfit =>
      simp only [hc] at h
      cases h
      exact ⟨tree, misfit, rfl, hc, rfl⟩

theorem setting_some_eq_ok {f : Field} {tree : Tree} {value : Setting}
    (h : f.setting (some tree) = .ok value) : f.convert tree = .ok value := by
  rw [Field.setting] at h
  cases hc : f.convert tree with
  | error misfit => simp [hc] at h
  | ok found =>
    simp only [hc] at h
    cases h
    rfl

/-- What is read off a tree is answered, if it is valid. -/
theorem answers_of_reads {t : Tree}
    (h : Reads t (ofTree t) fun c => ∀ f : Field, f.setting (t.field? f) = .ok (get c f)) :
    Answers t.field? (ofTree t >>= validate) := by
  rcases h with ⟨c, hc, hsettings⟩ | ⟨f, fault, hfault, hf⟩
  · -- All values could be converted, so only the brokers and the topics are left to be looked at.
    rw [hc]
    change Answers t.field? c.validate
    constructor
    -- No value is mistyped here, since each could be converted.
    · rintro ⟨f, tree, misfit, htree, hmisfit⟩
      have hset := hsettings f
      rw [htree] at hset
      rw [setting_some_eq_ok hset] at hmisfit
      cases hmisfit
    · intro _
      refine ⟨c, ⟨fun f hf => ?_, fun f tree hf => ?_⟩, ?_, fun hb ht => ?_, fun hb ht ha => ?_⟩
      · have hset := hsettings f
        rw [hf] at hset
        exact (Except.ok.inj hset).symm
      · have hset := hsettings f
        rw [hf] at hset
        exact setting_some_eq_ok hset
      · rw [validate]
        by_cases hb : IsBlankText c.stream.brokers
        · rw [if_pos hb]
          exact iff_of_true rfl hb
        · rw [if_neg hb]
          split <;> simp [hb]
      · rw [validate, if_neg hb, if_pos ht]
      · rw [validate, if_neg hb, if_neg (not_or.mpr ⟨ht, ha⟩)]
  -- The failure tells of one value that could not be converted.
  · obtain ⟨tree, misfit, htree, hmisfit, rfl⟩ := setting_eq_error hf
    rw [hfault]
    constructor
    · exact fun _ => ⟨f, tree, misfit, htree, hmisfit, rfl⟩
    · intro htyped
      obtain ⟨value, hvalue⟩ := htyped f tree htree
      rw [hmisfit] at hvalue
      cases hvalue

/-- **The last layer that gives a field decides what is loaded.** -/
theorem load_answers (d : Directory) (env : Environment) (hread : AreRead d env)
    (hplain : ∀ layer ∈ openLayers d env, layer.IsPlain) :
    Answers (decisive? (layers d env)) (load d env) := by
  have hall : ∀ layer ∈ layers d env, layer.IsPlain := by
    intro layer hlayer
    rcases List.mem_append.mp hlayer with h | h
    · exact hplain layer h
    · rw [List.mem_singleton.mp h]
      exact isPlain_brokerLayer env
  -- The tables are missing at first, so nothing but the layers has a say.
  have hfields := fun f => field?_addLayers hall f (t := Tree.emptyTable) nofun
  have hdecisive : ((layers d env).foldl addLayer Tree.emptyTable).field?
      = decisive? (layers d env) := by
    funext f
    rw [(hfields f).2]
    exact Option.or_none
  have hreads := reads_ofTree fun f => (hfields f).1
  rw [load, collect_eq hread, ← hdecisive]
  exact answers_of_reads hreads

/-- Two files that overlap, the second in other letter case. -/
def layeredFiles : Directory :=
  [⟨["config", "default.toml"], "[kafka]\ntopic = \"a\"\nsession_timeout_ms = \"soon\"\n"⟩,
    ⟨["config", "local.toml"], "[KAFKA]\nSession_Timeout_Ms = 250\nx = []\n"⟩]

/-- The topic is given by a variable, and so are the brokers. -/
def layeredVariables : Environment :=
  [("APP__KAFKA__TOPIC", "b"), ("KAFKA_BOOTSTRAP_SERVERS", "b:1")]

/-- Of each field the last value counts: a numeral that is none is overridden and does no harm. -/
theorem load_layered :
    AreRead layeredFiles layeredVariables
      ∧ (∀ layer ∈ openLayers layeredFiles layeredVariables, layer.IsPlain)
      ∧ Answers (decisive? (layers layeredFiles layeredVariables))
        (load layeredFiles layeredVariables)
      ∧ (load layeredFiles layeredVariables).toOption = some
        { stream := { brokers := "b:1", topic := "b", sessionTimeout := 250 } } := by
  have hread : AreRead layeredFiles layeredVariables := by decide +kernel
  have hplain : ∀ layer ∈ openLayers layeredFiles layeredVariables, layer.IsPlain := by
    decide +kernel
  exact ⟨hread, hplain, load_answers _ _ hread hplain, by decide +kernel⟩

/-! ### What the layers have to be -/

/-- **Documents can be read**, if no table in them begins with the reserved key. -/
theorem areRead_of_documents {d : Directory} {env : Environment}
    (h : ∀ file ∈ [defaultFile? d, placeFile? d env], ∀ path content, file = some (path, content) →
      ∃ members, Toml.document? content = some members ∧ Toml.standsForMoment members = false
        ∧ Toml.membersAreFree members = true) : AreRead d env := by
  intro file hfile
  cases file with
  | none => rfl
  | some found =>
    obtain ⟨path, content⟩ := found
    obtain ⟨members, hdocument, hlead, hfree⟩ := h _ hfile path content rfl
    obtain ⟨table, htable, -⟩ := Toml.read?_of_areFree hdocument hlead hfree
    rw [fileMembers, htable]
    rfl

/-- The variable that gives a field. -/
def Field.variable : Field → String
  | brokers => "APP__KAFKA__BROKERS"
  | groupId => "APP__KAFKA__GROUP_ID"
  | topic => "APP__KAFKA__TOPIC"
  | alertTopic => "APP__KAFKA__ALERT_TOPIC"
  | autoOffsetReset => "APP__KAFKA__AUTO_OFFSET_RESET"
  | enablePartitionEof => "APP__KAFKA__ENABLE_PARTITION_EOF"
  | sessionTimeout => "APP__KAFKA__SESSION_TIMEOUT_MS"
  | pollTimeout => "APP__DETECTION__POLL_TIMEOUT_MS"
  | flushTimeout => "APP__DETECTION__FLUSH_TIMEOUT_MS"

theorem variableKey?_variable : ∀ f : Field, variableKey? f.variable = some f.key := by
  decide +kernel

/-- The variable of a field gives this field, and no other. -/
theorem gives_variable (f g : Field) (text : String) :
    Layer.gives (variableSettings [(f.variable, text)]) g
      = if f = g then [.atom (.text text) (some .environment)] else [] := by
  have hlayer : variableSettings [(f.variable, text)]
      = [(f.key, .atom (.text text) (some .environment))] := by
    simp only [variableSettings, List.filterMap_cons, List.filterMap_nil, variableKey?_variable,
      Option.map_some]
  rw [hlayer, Layer.gives_cons, givenBy_key]
  exact List.append_nil _

/-- A document with one key, which is not the name of a table. -/
def quotedKey : Directory := [⟨["config", "default.toml"], "\"kafka.topic\" = \"x\"\n"⟩]

/-- A document with one key, the reserved one. -/
def reservedKey : Directory :=
  [⟨["config", "default.toml"], "\"$__toml_private_datetime\" = \"1979-05-27\"\n"⟩]

/-- Only the brokers are given. -/
def brokersOnly : Environment := [("KAFKA_BOOTSTRAP_SERVERS", "b:1")]

/-- **Keys that look unknown and are not**: a quoted key with a point in it is a path, so it sets
the topic although there is no table for it, and a document that begins with the reserved key is no
table, so nothing is loaded.  Without these keys the defaults are loaded. -/
theorem load_strange_keys :
    ((openLayers quotedKey brokersOnly).map (·.map Prod.fst)) = [["kafka.topic"], [], []]
      ∧ (load quotedKey brokersOnly).toOption
        = some { stream := { brokers := "b:1", topic := "x" } }
      ∧ ((placeFile? reservedKey brokersOnly).isNone ∧ (defaultFile? reservedKey).any fun file =>
        (Toml.document? file.2).any fun members =>
          members.map Prod.fst = ["$__toml_private_datetime"])
      ∧ (load reservedKey brokersOnly).toOption = none
      ∧ (load [] brokersOnly).toOption = some { stream := { brokers := "b:1" } } := by
  decide +kernel

end IbanWatch.Config
