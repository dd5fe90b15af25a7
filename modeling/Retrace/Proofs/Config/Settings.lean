import Retrace.Proofs.Config.Faults
import Retrace.Proofs.Config.Selection
import Retrace.Proofs.Config.Sources
import Retrace.Proofs.Yaml.Keys

/-!
# Settings, key by key

The configuration of a document over an environment is put together from layers of mappings.  What
comes out is told without them: every setting has the value that the document says, or else the
environment (`effective?`), and is read on its own or left at its default (`Settles`).
`load_eq_configured` says so of a document without rules whose sections map texts to plain values.

Nothing else comes in: a value that another one is set over is not looked at.
-/

namespace Retrace.Config

open Yaml (Value)

variable {host : Host} {tree : FileTree} {env : Environment} {path : Text} {fields : Fields}
  {value : SectionNames → Text → Option Value}

/-! ## Settings without layers -/

/-- What is said about a setting: the document counts, else the environment. -/
def effective? (env : Environment) (fields : Fields) (s : SectionNames) (key : Text) :
    Option Value :=
  (documentSetting? fields s key).or (environmentSetting? env s key)

/-- A layer with given settings and nothing else. -/
def flatLayer (value : SectionNames → Text → Option Value) : Fields :=
  sections.map fun s =>
    (s.name, .mapping (s.keys.filterMap fun key => (value s key).map (key, ·)) false)

/-- What comes of settings that are read: their problems, or their configuration if it passes the
check. -/
def checked : Except (List Problem) Config → Except Fault Config
  | .error ps => .error (.problems ps)
  | .ok c => checkConflict c

/-- The configuration of given settings, with keys that name no section. -/
def configured (value : SectionNames → Text → Option Value) (strays : List Text) :
    Except Fault Config :=
  checked (readLayer (flatLayer value) strays)

lemma nodup_keys : ∀ s ∈ sections, s.keys.Nodup := by decide

lemma holds_flatLayer (value : SectionNames → Text → Option Value) :
    Holds (flatLayer value) value := by
  intro s hs
  refine ⟨s.keys.filterMap fun key => (value s key).map (key, ·), Or.inr ⟨false, ?_⟩, ?_⟩
  · have hlayer : flatLayer value = sections.filterMap fun s => (some (Value.mapping
        (s.keys.filterMap fun key => (value s key).map (key, ·)) false)).map (s.name, ·) := by
      simp [flatLayer, List.filterMap_eq_map']
    rw [hlayer, Json.field?_filterMap SectionNames.name _ nodup_sectionNames hs]
  · intro key hkey
    refine Json.field?_filterMap id (value s) ?_ hkey
    rw [List.map_id]
    exact nodup_keys s hs

/-- The value of a setting is read, or the default taken where it has none. -/
def Takes {α : Type} (read : Value → Except ProblemKind α) (default : α) : Option Value → α → Prop
  | none, a => a = default
  | some v, a => read v = .ok a

instance {α : Type} [DecidableEq α] (read : Value → Except ProblemKind α) (default : α)
    (v : Option Value) (a : α) : Decidable (Takes read default v a) :=
  match v with
  | none => inferInstanceAs (Decidable (a = default))
  | some v => inferInstanceAs (Decidable (read v = .ok a))

/-- Every setting of a configuration is read from its value, or is the default. -/
structure Settles (value : SectionNames → Text → Option Value) (c : Config) : Prop where
  marker : Takes readMarker Trace.defaultMarker (value traceNames "marker".toList) c.trace.marker
  separator : Takes readText Trace.defaultSeparator (value traceNames "block_separator".toList)
    c.trace.separator
  shorten : Takes readTruth true (value formatNames "shorten".toList) c.format.shorten
  excluded : Takes readText Trace.defaultExcludedMarker
    (value formatNames "excluded_prefix_marker".toList) c.format.excluded
  level : Takes (readChoice Journal.Level.ofName?) ({} : Journal.Settings).level
    (value loggingNames "level".toList) c.logging.level
  format : Takes (readChoice Journal.Format.ofName?) ({} : Journal.Settings).format
    (value loggingNames "format".toList) c.logging.format

lemma settles_iff {c : Config} : Settles value c ↔
    (Takes readMarker Trace.defaultMarker (value traceNames "marker".toList) c.trace.marker ∧
      Takes readText Trace.defaultSeparator (value traceNames "block_separator".toList)
        c.trace.separator) ∧
    (Takes readTruth true (value formatNames "shorten".toList) c.format.shorten ∧
      Takes readText Trace.defaultExcludedMarker
        (value formatNames "excluded_prefix_marker".toList) c.format.excluded) ∧
    Takes (readChoice Journal.Level.ofName?) ({} : Journal.Settings).level
      (value loggingNames "level".toList) c.logging.level ∧
    Takes (readChoice Journal.Format.ofName?) ({} : Journal.Settings).format
      (value loggingNames "format".toList) c.logging.format := by
  constructor
  · rintro ⟨hmarker, hseparator, hshorten, hexcluded, hlevel, hformat⟩
    exact ⟨⟨hmarker, hseparator⟩, ⟨hshorten, hexcluded⟩, hlevel, hformat⟩
  · rintro ⟨⟨hmarker, hseparator⟩, ⟨hshorten, hexcluded⟩, hlevel, hformat⟩
    exact ⟨hmarker, hseparator, hshorten, hexcluded, hlevel, hformat⟩

instance (value : SectionNames → Text → Option Value) (c : Config) : Decidable (Settles value c) :=
  decidable_of_iff' _ settles_iff

namespace Checked

variable {α β γ : Type}

/-- Reading gives a result without a problem. -/
def Gives (c : Checked α) (a : α) : Prop := c.result = some a ∧ c.problems = []

lemma gives_both_iff {f : α → β → γ} {a : Checked α} {b : Checked β} {z : γ} :
    (both f a b).Gives z ↔ ∃ x y, a.Gives x ∧ b.Gives y ∧ f x y = z := by
  have hproblems : (both f a b).problems = a.problems ++ b.problems := rfl
  simp only [Gives, result_both_eq_some_iff, hproblems, List.append_eq_nil_iff]
  constructor
  · rintro ⟨⟨x, y, hx, hy, hz⟩, ha, hb⟩
    exact ⟨x, y, ⟨hx, ha⟩, ⟨hy, hb⟩, hz⟩
  · rintro ⟨x, y, ⟨hx, ha⟩, ⟨hy, hb⟩, hz⟩
    exact ⟨⟨x, y, hx, hy, hz⟩, ha, hb⟩

end Checked

lemma gives_readKey_iff {α : Type} {name key : Text} {read : Value → Except ProblemKind α}
    {default a : α} {fields : Fields} :
    (readKey name key read default fields).Gives a ↔
      Takes read default (Json.field? key fields) a := by
  unfold readKey
  cases Json.field? key fields with
  | none => simp [Checked.Gives, Takes, eq_comm]
  | some v =>
    dsimp only [Takes]
    cases read v <;> simp [Checked.Gives, Checked.failed]

lemma gives_readTrace_iff {t : TraceSettings} : (readTrace fields).Gives t ↔
    Takes readMarker Trace.defaultMarker (Json.field? "marker".toList fields) t.marker ∧
      Takes readText Trace.defaultSeparator (Json.field? "block_separator".toList fields)
        t.separator := by
  simp only [readTrace, Checked.gives_both_iff, gives_readKey_iff]
  constructor
  · rintro ⟨marker, separator, hmarker, hseparator, rfl⟩
    exact ⟨hmarker, hseparator⟩
  · rintro ⟨hmarker, hseparator⟩
    exact ⟨_, _, hmarker, hseparator, rfl⟩

lemma gives_readFormat_iff {f : FormatSettings} : (readFormat fields).Gives f ↔
    Takes readTruth true (Json.field? "shorten".toList fields) f.shorten ∧
      Takes readText Trace.defaultExcludedMarker
        (Json.field? "excluded_prefix_marker".toList fields) f.excluded := by
  simp only [readFormat, Checked.gives_both_iff, gives_readKey_iff]
  constructor
  · rintro ⟨shorten, excluded, hshorten, hexcluded, rfl⟩
    exact ⟨hshorten, hexcluded⟩
  · rintro ⟨hshorten, hexcluded⟩
    exact ⟨_, _, hshorten, hexcluded, rfl⟩

lemma gives_readLogging_iff {l : Journal.Settings} : (readLogging fields).Gives l ↔
    Takes (readChoice Journal.Level.ofName?) ({} : Journal.Settings).level
        (Json.field? "level".toList fields) l.level ∧
      Takes (readChoice Journal.Format.ofName?) ({} : Journal.Settings).format
        (Json.field? "format".toList fields) l.format := by
  simp only [readLogging, Checked.gives_both_iff, gives_readKey_iff]
  constructor
  · rintro ⟨level, format, hlevel, hformat, rfl⟩
    exact ⟨hlevel, hformat⟩
  · rintro ⟨hlevel, hformat⟩
    exact ⟨_, _, hlevel, hformat, rfl⟩

lemma readLayer_eq_ok_iff_gives (layer : Fields) (strays : List Text) (c : Config) :
    readLayer layer strays = .ok c ↔ strays = [] ∧
      (readSection traceNames.name readTrace {} layer).Gives c.trace ∧
      (readSection formatNames.name readFormat {} layer).Gives c.format ∧
      (readSection loggingNames.name readLogging {} layer).Gives c.logging := by
  have hgives : readLayer layer strays = .ok c ↔ strays = [] ∧
      (Checked.both (fun trace rest => Config.mk trace rest.1 rest.2)
        (readSection "trace".toList readTrace {} layer)
        (.both Prod.mk (readSection "format".toList readFormat {} layer)
          (readSection "logging".toList readLogging {} layer))).Gives c := by
    unfold readLayer
    dsimp only
    generalize Checked.both (fun trace (rest : FormatSettings × Journal.Settings) =>
      Config.mk trace rest.1 rest.2) _ _ = checked
    obtain ⟨c?, ps⟩ := checked
    cases c? with
    | none => simp [Checked.Gives]
    | some d => cases ps <;> cases strays <;> simp [Checked.Gives]
  refine hgives.trans (and_congr_right fun _ => ?_)
  simp only [Checked.gives_both_iff]
  constructor
  · rintro ⟨trace, _, htrace, ⟨format, logging, hformat, hlogging, rfl⟩, rfl⟩
    exact ⟨htrace, hformat, hlogging⟩
  · rintro ⟨htrace, hformat, hlogging⟩
    exact ⟨_, _, htrace, ⟨_, _, hformat, hlogging, rfl⟩, rfl⟩

/-- A layer is read without a problem as the configuration that its settings settle, unless a key
names no section. -/
lemma readLayer_eq_ok_iff {layer : Fields} {strays : List Text} {c : Config}
    (h : Holds layer value) :
    readLayer layer strays = .ok c ↔ strays = [] ∧ Settles value c := by
  obtain ⟨trace, htrace, hvalue⟩ := h traceNames traceNames_mem
  obtain ⟨format, hformat, hvalue'⟩ := h formatNames formatNames_mem
  obtain ⟨logging, hlogging, hvalue''⟩ := h loggingNames loggingNames_mem
  have hread := readLayer_eq_ok_iff_gives layer strays c
  rw [htrace.readSection rfl, hformat.readSection rfl, hlogging.readSection rfl] at hread
  rw [hread, gives_readTrace_iff, gives_readFormat_iff, gives_readLogging_iff]
  rw [hvalue _ List.mem_cons_self, hvalue _ second_mem, hvalue' _ List.mem_cons_self,
    hvalue' _ second_mem, hvalue'' _ List.mem_cons_self, hvalue'' _ second_mem, settles_iff]

lemma configured_eq_ok_iff {strays : List Text} {c : Config} :
    configured value strays = .ok c ↔
      strays = [] ∧ Settles value c ∧ c.conflict? = none := by
  have hread (d : Config) :
      readLayer (flatLayer value) strays = .ok d ↔ strays = [] ∧ Settles value d :=
    readLayer_eq_ok_iff (holds_flatLayer value)
  unfold configured
  cases h : readLayer (flatLayer value) strays with
  | error ps =>
    refine iff_of_false (by rintro ⟨⟩) ?_
    rintro ⟨hstrays, hsettles, -⟩
    have hok := (hread c).2 ⟨hstrays, hsettles⟩
    rw [h] at hok
    cases hok
  | ok d =>
    rw [checked, checkConflict_eq_ok_iff]
    constructor
    · rintro ⟨rfl, hconflict⟩
      exact ⟨((hread d).1 h).1, ((hread d).1 h).2, hconflict⟩
    · rintro ⟨hstrays, hsettles, hconflict⟩
      obtain rfl := Except.ok.inj (h.symm.trans ((hread c).2 ⟨hstrays, hsettles⟩))
      exact ⟨rfl, hconflict⟩

/-! ## Loading -/

/-- Only what the environment says lies under a document without rules, and nothing over it. -/
lemma exists_around (tree : FileTree) {encoding : Encoding} {hasWords : Bool}
    (hwords : wordLayer host { hasWords } (ruleFields fields) = .ok []) (henv : Separate env)
    (hobjects : Unambiguous env) :
    ∃ layer, around host tree env { encoding, hasWords } (ruleFields fields)
        (({} : Rules).variablesOf (named env)) sections = .ok ⟨[], [layer, [], []], []⟩ ∧
      (layer.map (·.1)).Nodup ∧ Holds layer (environmentSetting? env) := by
  obtain ⟨layer, hlayer, hnodup, hholds⟩ := holds_variableLayer henv hobjects
  refine ⟨layer, ?_, hnodup, hholds⟩
  rw [around_eq_map hwords, hlayer]
  rfl

/-- A document over one layer and nothing else. -/
lemma join_eq_fieldsOver {layer upper : Fields} (hnodup : (layer.map (·.1)).Nodup)
    (strays : List Text) :
    (Around.mk [] [layer, [], []] strays).join upper = fieldsOver layer upper := by
  have hover : ((fieldsOver layer upper).map (·.1)).Nodup := nodup_fieldsOver upper hnodup
  simp only [Around.join, List.foldl_cons, List.foldl_nil]
  rw [fieldsOver, fieldsOver_nil hover, fieldsOver_nil hover]

/-! ### The document -/

lemma ofDocument_mapping :
    ofDocument host tree env (.mapping fields false) = ofFields host tree env fields := by
  cases fields with
  | nil => rfl
  | cons field fields => rfl

lemma load_of_hasDocument {v : Value} (h : HasDocument tree env path v) :
    load host tree env (some path) = ofDocument host tree env v := by
  rw [load, documentAt_eq_ok_iff.2 h]
  rfl

lemma HasDocument.distinct {v : Value} (h : HasDocument tree env path v) : v.Distinct := by
  obtain ⟨t, -, hload⟩ := h
  exact Yaml.distinct_of_load hload

/-- No key of a rule names a section. -/
lemma lower_not_mem_of_isKey {key : Text} (h : Rules.isKey key = true) :
    Text.lower key ∉ sections.map (·.name) := by
  have hkeys : ∀ key ∈ Rules.keys, Text.lower key ∉ sections.map (·.name) := by decide +kernel
  exact hkeys key (by simpa [Rules.isKey] using h)

lemma documentSection?_filter {s : SectionNames} (hs : s ∈ sections) (fields : Fields) :
    documentSection? (fields.filter fun field => !Rules.isKey field.1) s =
      documentSection? fields s := by
  rw [documentSection?, documentSection?, List.find?_filter]
  refine congrArg _ (List.find?_congr fun field _ => ?_)
  rw [Bool.eq_iff_iff]
  simp only [Bool.not_eq_true', decide_eq_true_eq, and_iff_right_iff_imp]
  intro hname
  refine Bool.eq_false_iff.2 fun hkey => lower_not_mem_of_isKey hkey ?_
  exact hname ▸ List.mem_map_of_mem hs

lemma documentSetting?_filter {s : SectionNames} (hs : s ∈ sections) (fields : Fields)
    (key : Text) :
    documentSetting? (fields.filter fun field => !Rules.isKey field.1) s key =
      documentSetting? fields s key := by
  rw [documentSetting?, documentSection?_filter hs, documentSetting?]

lemma strays_filter (fields : Fields) : (documentLayer (sections.map (·.name))
    (fields.filter fun field => !Rules.isKey field.1)).2 = strays fields := by
  simp only [documentLayer_strays, strays, List.filter_map, List.filter_filter]
  rfl

/-- The fields of a section are distinct, and hold no others under keys. -/
lemma Sectioned.flat (h : Sectioned fields) (hdistinct : (Value.mapping fields false).Distinct)
    {s : SectionNames} (hs : s ∈ sections) {inner : Fields}
    (hinner : HasFields (documentSection? fields s) inner) :
    (inner.map (·.1)).Nodup ∧ ∀ field ∈ inner, ¬ IsMapping field.2 := by
  rcases hinner with ⟨-, rfl⟩ | ⟨otherKeys, hsection⟩
  · exact ⟨List.nodup_nil, by rintro _ ⟨⟩⟩
  · obtain ⟨field, hfield, hv⟩ := Option.map_eq_some_iff.1 hsection
    obtain ⟨_, hmapping, hflat⟩ := h s hs _ hsection
    obtain ⟨rfl, rfl⟩ := Value.mapping.inj hmapping
    have hmem := List.mem_of_find?_eq_some hfield
    have hvalue := (Yaml.distinct_mapping_iff.1 hdistinct).2 field hmem
    rw [hv] at hvalue
    exact ⟨(Yaml.distinct_mapping_iff.1 hvalue).1, hflat⟩

lemma holds_document (h : Sectioned fields)
    (hdistinct : (Value.mapping fields false).Distinct) {under : Fields}
    (hunder : Holds under (environmentSetting? env)) :
    Holds (fieldsOver under (documentLayer (sections.map (·.name))
      (fields.filter fun field => !Rules.isKey field.1)).1) (effective? env fields) := by
  have hsections : Sectioned (fields.filter fun field => !Rules.isKey field.1) := by
    intro s hs v hv
    rw [documentSection?_filter hs] at hv
    exact h s hs v hv
  have hover := hunder.over (holds_documentLayer hsections) (nodup_documentLayer _ _) ?_
  · intro s hs
    obtain ⟨inner, hinner, hkeys⟩ := hover s hs
    refine ⟨inner, hinner, fun key hkey => ?_⟩
    rw [hkeys key hkey]
    dsimp only
    rw [documentSetting?_filter hs, effective?]
  · intro s hs inner hinner
    rw [field?_documentLayer (List.mem_map_of_mem hs)] at hinner
    change HasFields (documentSection? _ s) inner at hinner
    rw [documentSection?_filter hs] at hinner
    exact h.flat hdistinct hs hinner

/-- The configuration of a document over an environment is that of what they say, key by key. -/
theorem load_eq_configured (hdocument : HasDocument tree env path (.mapping fields false))
    (hsections : Sectioned fields) (hrules : Ruleless host fields) (henv : Separate env)
    (hobjects : Unambiguous env) :
    load host tree env (some path) = configured (effective? env fields) (strays fields) := by
  obtain ⟨encoding, hasWords, hrules, hwords⟩ := hrules
  obtain ⟨under, haround, hnodup, hholds⟩ := exists_around tree hwords henv hobjects
  have hlayer := holds_document hsections hdocument.distinct hholds
  have hnone : (strays fields).filter (!([] : List Text).contains ·) = strays fields :=
    List.filter_eq_self.2 fun _ _ => rfl
  have hrun : ofRules host tree env { encoding, hasWords } fields =
      checked (readLayer (fieldsOver under (documentLayer (sections.map (·.name))
        (fields.filter fun field => !Rules.isKey field.1)).1) (strays fields)) := by
    have haround' : around host tree env { encoding, hasWords } (ruleFields fields)
        (({ encoding, hasWords } : Rules).variablesOf (named env)) sections =
          .ok ⟨[], [under, [], []], []⟩ := haround
    rw [ofRules, haround']
    dsimp only
    rw [ofAround]
    dsimp only
    rw [join_eq_fieldsOver hnodup, strays_filter, List.nil_append, hnone]
    cases readLayer _ _ <;> rfl
  rw [load_of_hasDocument hdocument, ofDocument_mapping, ofFields, hrules]
  exact hrun.trans (congrArg checked (readLayer_congr hlayer (holds_flatLayer _) _))

/-- The configuration of an environment alone is that of what it says. -/
theorem load_none_eq_configured (host : Host) (tree : FileTree) (henv : Separate env)
    (hobjects : Unambiguous env) :
    load host tree env none = configured (environmentSetting? env) [] := by
  obtain ⟨layer, hlayer, -, hholds⟩ := holds_variableLayer henv hobjects
  have hrun : load host tree env none = checked (readLayer layer []) := by
    rw [load, ofEnvironment, hlayer]
    dsimp only
    cases readLayer layer [] <;> rfl
  exact hrun.trans (congrArg checked (readLayer_congr hholds (holds_flatLayer _) _))

end Retrace.Config
