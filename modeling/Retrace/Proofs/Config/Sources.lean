import Retrace.Proofs.Config.Overlay

/-!
# What variables and documents say

A setting can be made in three places: in the document, in a variable of its own, and in the JSON
object that the variable of its section holds.  `environmentSetting?` and `documentSetting?` tell
what is said there about a setting, by nothing but look-ups.  The layers that the environment and a
document are turned into hold just that (`holds_variableLayer`, `holds_documentLayer`).

Names of variables and of sections count in any case, and so do the keys of a JSON object; the keys
of a section of a document count as they are.  This is plain only as long as no two variables have
the same name up to case and no two keys of an object are for one setting (`Separate`,
`Unambiguous`): if they do, it is their order that decides.
-/

namespace Retrace

/-- The text of a variable, in whatever case its name is written. -/
def Environment.textOf? (env : Environment) (name : Text) : Option Text :=
  (env.find? fun v => Text.lower v.1 = Text.lower name).map (·.2)

namespace Config

open Yaml (Value)

variable {env : Environment} {fields : Fields} {s : SectionNames} {key : Text}

/-! ## Variables -/

/-- The name of the variable for a section. -/
def SectionNames.variableName (s : SectionNames) : Text := "CRASHLYFIX_".toList ++ s.name

/-- The name of the variable for a key of a section. -/
def SectionNames.keyVariableName (s : SectionNames) (key : Text) : Text :=
  s.variableName ++ "__".toList ++ key

/-- The JSON object in the variable for a section, if it holds one. -/
def object? (env : Environment) (s : SectionNames) : Option (List (Text × Json)) :=
  match (env.textOf? s.variableName).map Json.parse with
  | some (.ok (.object fields)) => some fields
  | _ => none

/-- What the JSON object in the variable for a section has under a key, in whatever case. -/
def objectValue? (env : Environment) (s : SectionNames) (key : Text) : Option Json :=
  (object? env s).bind fun fields =>
    (fields.find? fun field => Text.lower field.1 = key).map (·.2)

/-- What the environment says about a setting: its own variable counts, else the JSON object. -/
def environmentSetting? (env : Environment) (s : SectionNames) (key : Text) : Option Value :=
  ((env.textOf? (s.keyVariableName key)).map Value.text).or ((objectValue? env s key).map ofJson)

/-- An environment of settings: no two names are equal up to case, the variable for a section holds
a JSON object, and what follows the name of a section in the name of a variable is one key. -/
structure Separate (env : Environment) : Prop where
  names : (env.map fun v => Text.lower v.1).Nodup
  objects : ∀ s ∈ sections, (env.textOf? s.variableName).isSome → (object? env s).isSome
  keys : ∀ s ∈ sections, ∀ v ∈ env, ∀ rest,
    Text.lower v.1 = Text.lower s.variableName ++ "__".toList ++ rest → ¬ "__".toList <:+: rest

/-- No two keys of a JSON object are for one setting. -/
def Unambiguous (env : Environment) : Prop :=
  ∀ s ∈ sections, ∀ fields, object? env s = some fields →
    ∀ key ∈ s.keys, (fields.map fun field => Text.lower field.1).count key ≤ 1

lemma separate_iff : Separate env ↔ (env.map fun v => Text.lower v.1).Nodup ∧
    (∀ s ∈ sections, (env.textOf? s.variableName).isSome → (object? env s).isSome) ∧
    ∀ s ∈ sections, ∀ v ∈ env, ∀ rest ∈
      Text.dropLead? (Text.lower s.variableName ++ "__".toList) (Text.lower v.1),
      ¬ "__".toList <:+: rest := by
  constructor
  · rintro ⟨hnames, hobjects, hkeys⟩
    exact ⟨hnames, hobjects, fun s hs v hv rest hrest =>
      hkeys s hs v hv rest (Text.eq_append_of_dropLead? hrest)⟩
  · rintro ⟨hnames, hobjects, hkeys⟩
    exact ⟨hnames, hobjects, fun s hs v hv rest hname =>
      hkeys s hs v hv rest (hname ▸ Text.dropLead?_append _ _)⟩

instance (env : Environment) : Decidable (Separate env) := decidable_of_iff' _ separate_iff

instance (env : Environment) : Decidable (Unambiguous env) :=
  inferInstanceAs (Decidable (∀ s ∈ sections, ∀ fields ∈ object? env s, ∀ key ∈ s.keys,
    (fields.map fun field => Text.lower field.1).count key ≤ 1))

lemma object?_eq_some_iff {object : List (Text × Json)} : object? env s = some object ↔
    ∃ t, env.textOf? s.variableName = some t ∧ Json.parse t = .ok (.object object) := by
  unfold object?
  cases env.textOf? s.variableName with
  | none => simp
  | some t =>
    rw [Option.map_some]
    constructor
    · intro h
      split at h
      · next fields hparse =>
        obtain rfl := Option.some.inj h
        exact ⟨t, rfl, Option.some.inj hparse⟩
      · cases h
    · rintro ⟨_, ⟨rfl⟩, hparse⟩
      rw [hparse]

lemma lower_key (hs : s ∈ sections) (hkey : key ∈ s.keys) : Text.lower key = key := by
  have h : ∀ s ∈ sections, ∀ key ∈ s.keys, Text.lower key = key := by decide +kernel
  exact h s hs key hkey

lemma lower_keyVariableName (hs : s ∈ sections) (hkey : key ∈ s.keys) :
    Text.lower (s.keyVariableName key) = Text.lower s.variableName ++ "__".toList ++ key := by
  have h : ∀ s ∈ sections, ∀ key ∈ s.keys,
      Text.lower (s.keyVariableName key) = Text.lower s.variableName ++ "__".toList ++ key := by
    decide +kernel
  exact h s hs key hkey

lemma textOf?_eq_field? (env : Environment) (name : Text) : env.textOf? name =
    Json.field? (Text.lower name) (env.map fun v => (Text.lower v.1, v.2)) :=
  (Json.field?_map Text.lower id).symm

lemma textOf?_eq_some_iff (h : Separate env) {name t : Text} :
    env.textOf? name = some t ↔ ∃ v ∈ env, Text.lower v.1 = Text.lower name ∧ v.2 = t := by
  have hnodup : ((env.map fun v => (Text.lower v.1, v.2)).map (·.1)).Nodup := by
    rw [List.map_map]
    exact h.names
  rw [textOf?_eq_field?, Json.field?_eq_some_iff hnodup, List.mem_map]
  simp only [Prod.mk.injEq]

lemma variablesOf_named (h : Separate env) :
    ({} : Rules).variablesOf (named env) = env.map fun v => (Text.lower v.1, Said.text v.2) := by
  have hset : ({} : Rules).variablesOf (named env) =
      Json.setFields (env.map fun v => (Text.lower v.1, Said.text v.2)) [] := by
    have hall : (named env).filter (fun v => !(({} : Rules).dropsEmpty && v.2 = some [])) =
        named env := List.filter_eq_self.2 fun _ _ => rfl
    rw [Json.setFields, List.foldl_map, Rules.variablesOf]
    refine (congrArg _ hall).trans ?_
    rw [named, List.foldl_map]
    rfl
  rw [hset, Json.setFields_nil_of_nodup]
  rw [List.map_map]
  exact h.names

/-- The keys of a section that variables are for, with their texts. -/
def keyFields (env : Environment) (s : SectionNames) : Fields :=
  env.filterMap fun v =>
    (Text.dropLead? (Text.lower s.variableName ++ "__".toList) (Text.lower v.1)).map
      (·, Value.text v.2)

lemma mem_keyFields {field : Text × Value} : field ∈ keyFields env s ↔
    ∃ v ∈ env, Text.lower v.1 = Text.lower s.variableName ++ "__".toList ++ field.1 ∧
      field.2 = .text v.2 := by
  rw [keyFields, List.mem_filterMap]
  refine exists_congr fun v => and_congr_right fun _ => ?_
  rw [Option.map_eq_some_iff]
  constructor
  · rintro ⟨rest, hrest, rfl⟩
    exact ⟨Text.eq_append_of_dropLead? hrest, rfl⟩
  · rintro ⟨hname, htext⟩
    exact ⟨field.1, hname ▸ Text.dropLead?_append _ _, by rw [← htext]⟩

lemma nodup_keyFields (h : Separate env) (s : SectionNames) :
    ((keyFields env s).map (·.1)).Nodup := by
  have hkeys : (keyFields env s).map (·.1) = (env.map fun v => Text.lower v.1).filterMap
      (Text.dropLead? (Text.lower s.variableName ++ "__".toList)) := by
    rw [keyFields, List.map_filterMap, List.filterMap_map]
    refine congrArg (List.filterMap · env) (funext fun v => ?_)
    simp [Function.comp_def]
  rw [hkeys]
  refine h.names.filterMap fun a b rest ha hb => ?_
  rw [Text.eq_append_of_dropLead? ha, Text.eq_append_of_dropLead? hb]

lemma fieldsOver_keyFields (under : Fields) :
    fieldsOver under (keyFields env s) = Json.setFields (keyFields env s) under := by
  refine fieldsOver_eq_setFields ?_
  rintro field hfield ⟨_, _, hmapping⟩
  obtain ⟨v, -, -, htext⟩ := mem_keyFields.1 hfield
  rw [htext] at hmapping
  cases hmapping

lemma lower_of_mem_keyFields {field : Text × Value} (h : field ∈ keyFields env s) :
    Text.lower field.1 = field.1 := by
  obtain ⟨v, -, hname, -⟩ := mem_keyFields.1 h
  exact Text.lower_eq_self_of_infix (hname ▸ (List.suffix_append _ _).isInfix)

/-- A variable for a key of a section is one with the names of both, in any case. -/
lemma field?_keyFields (h : Separate env) (hs : s ∈ sections) (hkey : key ∈ s.keys) :
    Json.field? key (keyFields env s) = (env.textOf? (s.keyVariableName key)).map Value.text := by
  refine Option.ext fun v => ?_
  rw [Json.field?_eq_some_iff (nodup_keyFields h s), mem_keyFields, Option.map_eq_some_iff]
  simp only [textOf?_eq_some_iff h, lower_keyVariableName hs hkey]
  constructor
  · rintro ⟨w, hw, hname, rfl⟩
    exact ⟨w.2, ⟨w, hw, hname, rfl⟩, rfl⟩
  · rintro ⟨t, ⟨w, hw, hname, rfl⟩, rfl⟩
    exact ⟨w, hw, hname, rfl⟩

lemma path_eq_singleton {rest : Text} (h : ¬ "__".toList <:+: rest) :
    ({} : Rules).path rest = [rest] :=
  Text.splitOn_eq_singleton h

lemma setFields_keyFields_nil (h : Separate env) (s : SectionNames) :
    Json.setFields (keyFields env s) [] = keyFields env s :=
  Json.setFields_nil_of_nodup _ (nodup_keyFields h s)

/-- Variables with one key each set the keys of a section. -/
lemma nestedFields_eq (h : Separate env) (hs : s ∈ sections) :
    ({} : Rules).nestedFields (({} : Rules).variablesOf (named env)) s.name = keyFields env s := by
  rw [← setFields_keyFields_nil h, variablesOf_named h, Rules.nestedFields, if_neg (by decide),
    List.foldl_map, Json.setFields, keyFields, List.foldl_filterMap]
  have hlead : ({} : Rules).sectionVariable s.name ++ ({} : Rules).nesting =
      Text.lower s.variableName ++ "__".toList := rfl
  rw [hlead]
  refine List.foldl_ext _ _ _ fun fields v hv => ?_
  dsimp only
  cases hrest : Text.dropLead? (Text.lower s.variableName ++ "__".toList) (Text.lower v.1) with
  | none => rfl
  | some rest =>
    dsimp only
    rw [path_eq_singleton (h.keys s hs v hv rest (Text.eq_append_of_dropLead? hrest))]
    rfl

/-! ## The layer of the environment -/

lemma ofJsonFields_eq_map (fields : List (Text × Json)) :
    ofJsonFields fields = fields.map fun field => (field.1, ofJson field.2) := by
  induction fields with
  | nil => rfl
  | cons field fields ih => rw [ofJsonFields, ih, List.map_cons]

/-- Of the fields that are a key in any case the last one gets its name. -/
lemma field?_renameKeys (hs : s ∈ sections) (hkey : key ∈ s.keys) (fields : Fields) :
    Json.field? key (renameKeys s.keys fields) =
      (fields.filter fun field => Text.lower field.1 = key).getLast?.map (·.2) := by
  -- Only what is the key in small letters gets its name: the key is one in small letters itself.
  have hname (other : Text) :
      (s.keys.find? (· = Text.lower other)).getD other = key ↔ Text.lower other = key := by
    cases hfind : s.keys.find? (· = Text.lower other) with
    | some name =>
      have hsame : name = Text.lower other := by simpa using List.find?_some hfind
      rw [Option.getD_some, hsame]
    | none =>
      have hnone : Text.lower other ∉ s.keys := fun hmem =>
        absurd (List.find?_eq_none.1 hfind _ hmem) (by simp)
      refine iff_of_false ?_ fun hlower => hnone (hlower ▸ hkey)
      rintro rfl
      exact hnone ((lower_key hs hkey).symm ▸ hkey)
  have hset : renameKeys s.keys fields = Json.setFields (fields.map fun field =>
      ((s.keys.find? (· = Text.lower field.1)).getD field.1, field.2)) [] := by
    rw [Json.setFields, List.foldl_map]
    rfl
  rw [hset, Json.field?_setFields, Json.field?_nil, Option.or_none, ← List.map_reverse,
    List.getLast?_filter]
  refine (Json.field?_map (fun name => (s.keys.find? (· = Text.lower name)).getD name)
    (fun v => v)).trans ?_
  simp only [hname]

/-- The keys that are set one by one, over fields with at most one for a key in any case. -/
lemma field?_renameKeys_over (h : Separate env) (hs : s ∈ sections) (hkey : key ∈ s.keys)
    (hone : (fields.filter fun field => Text.lower field.1 = key).length ≤ 1) :
    Json.field? key (renameKeys s.keys (fieldsOver fields (keyFields env s))) =
      ((env.textOf? (s.keyVariableName key)).map Value.text).or
        ((fields.find? fun field => Text.lower field.1 = key).map (·.2)) := by
  have hsmall : ∀ field ∈ keyFields env s,
      decide (Text.lower field.1 = key) = true ↔ field.1 = key := by
    intro field hfield
    rw [lower_of_mem_keyFields hfield, decide_eq_true_iff]
  rw [field?_renameKeys hs hkey, fieldsOver_keyFields,
    Json.getLast?_filter_setFields (p := fun name => Text.lower name = key) hone
      (nodup_keyFields h s) hsmall, field?_keyFields h hs hkey]

lemma Unambiguous.length_filter {object : List (Text × Json)} (hobjects : Unambiguous env)
    (hs : s ∈ sections) (hkey : key ∈ s.keys) (hobject : object? env s = some object) :
    (object.filter fun field => Text.lower field.1 = key).length ≤ 1 := by
  have hcount := hobjects s hs object hobject key hkey
  rw [List.count_eq_length_filter, List.filter_map, List.length_map] at hcount
  simpa only [Function.comp_def, beq_eq_decide] using hcount

lemma length_filter_ofJsonFields (object : List (Text × Json)) :
    ((ofJsonFields object).filter fun field => Text.lower field.1 = key).length =
      (object.filter fun field => Text.lower field.1 = key).length := by
  rw [ofJsonFields_eq_map, List.filter_map, List.length_map]
  rfl

/-- What variables set a section to: what they say about its settings. -/
lemma exists_ofVariables (h : Separate env) (hobjects : Unambiguous env) (hs : s ∈ sections) :
    ∃ v fields, ({} : Rules).ofVariables (({} : Rules).variablesOf (named env)) s = .ok v ∧
      HasFields v fields ∧
      ∀ key ∈ s.keys, Json.field? key fields = environmentSetting? env s key := by
  have hsection : Json.field? (({} : Rules).sectionVariable s.name)
      (({} : Rules).variablesOf (named env)) = (env.textOf? s.variableName).map Said.text := by
    rw [variablesOf_named h, Json.field?_map Text.lower]
    rw [Environment.textOf?, Option.map_map]
    rfl
  have hempty : fieldsOver [] (keyFields env s) = keyFields env s :=
    (fieldsOver_keyFields []).trans (setFields_keyFields_nil h s)
  unfold Rules.ofVariables
  rw [hsection, nestedFields_eq h hs]
  cases htext : env.textOf? s.variableName with
  | none =>
    have hsetting : ∀ key ∈ s.keys, Json.field? key (renameKeys s.keys (keyFields env s)) =
        environmentSetting? env s key := by
      intro key hkey
      rw [← hempty, field?_renameKeys_over h hs hkey (by simp), environmentSetting?,
        objectValue?, object?, htext]
      rfl
    refine ⟨_, _, rfl, ?_, hsetting⟩
    split
    · next hnil =>
      rw [List.isEmpty_iff.1 hnil]
      exact Or.inl ⟨rfl, rfl⟩
    · exact Or.inr ⟨false, rfl⟩
  | some t =>
    obtain ⟨object, hobject⟩ := Option.isSome_iff_exists.1 (h.objects s hs (by rw [htext]; rfl))
    have hparse : Json.parse t = .ok (.object object) := by
      obtain ⟨_, ht, hparse⟩ := object?_eq_some_iff.1 hobject
      rwa [Option.some.inj (htext.symm.trans ht)]
    have hsetting : ∀ key ∈ s.keys, Json.field? key (renameKeys s.keys
        (fieldsOver (ofJsonFields object) (keyFields env s))) = environmentSetting? env s key := by
      intro key hkey
      have hone := hobjects.length_filter hs hkey hobject
      rw [← length_filter_ofJsonFields] at hone
      rw [field?_renameKeys_over h hs hkey hone, environmentSetting?, objectValue?, hobject,
        ofJsonFields_eq_map, List.find?_map, Option.map_map, Option.bind_some, Option.map_map]
      rfl
    refine ⟨_, _, ?_, Or.inr ⟨false, rfl⟩, hsetting⟩
    rw [Option.map_some]
    dsimp only
    rw [Rules.ofText, hparse]
    rfl

lemma layerOf_eq_ok {read : SectionNames → Except SectionFault (Option Value)}
    {value : SectionNames → Option Value} {names : List SectionNames}
    (h : ∀ s ∈ names, read s = .ok (value s)) :
    layerOf read names = .ok (names.filterMap fun s => (value s).map (s.name, ·)) := by
  induction names with
  | nil => rfl
  | cons s names ih =>
    have hrest := ih fun other hother => h other (List.mem_cons_of_mem _ hother)
    rw [layerOf, h s List.mem_cons_self]
    dsimp only
    rw [hrest, List.filterMap_cons]
    cases value s <;> rfl

lemma nodup_sectionNames : (sections.map (·.name)).Nodup := by decide

/-- **The environment as a layer.** Its variables are read, and hold what they say. -/
theorem holds_variableLayer (h : Separate env) (hobjects : Unambiguous env) :
    ∃ layer, variableLayer {} (({} : Rules).variablesOf (named env)) sections = .ok layer ∧
      (layer.map (·.1)).Nodup ∧ Holds layer (environmentSetting? env) := by
  have hvalue : ∀ s, ∃ v, s ∈ sections →
      ({} : Rules).ofVariables (({} : Rules).variablesOf (named env)) s = .ok v ∧
      ∃ fields, HasFields v fields ∧
        ∀ key ∈ s.keys, Json.field? key fields = environmentSetting? env s key := by
    intro s
    by_cases hs : s ∈ sections
    · obtain ⟨v, fields, hv, hfields, hkeys⟩ := exists_ofVariables h hobjects hs
      exact ⟨v, fun _ => ⟨hv, fields, hfields, hkeys⟩⟩
    · exact ⟨none, fun hmem => absurd hmem hs⟩
  choose value hvalue using hvalue
  refine ⟨_, layerOf_eq_ok fun s hs => mapError_eq_ok_iff.2 (hvalue s hs).1, ?_, fun s hs => ?_⟩
  · exact nodup_sectionNames.sublist Json.keys_filterMap_sublist
  obtain ⟨-, fields, hfields, hkeys⟩ := hvalue s hs
  refine ⟨fields, ?_, hkeys⟩
  rw [Json.field?_filterMap SectionNames.name value nodup_sectionNames hs]
  exact hfields

/-! ## Documents -/

/-- The section of a document: the first whose key is its name in any case. -/
def documentSection? (fields : Fields) (s : SectionNames) : Option Value :=
  (fields.find? fun field => Text.lower field.1 = s.name).map (·.2)

/-- What a document says about a setting. -/
def documentSetting? (fields : Fields) (s : SectionNames) (key : Text) : Option Value :=
  match documentSection? fields s with
  | some (.mapping inner _) => Json.field? key inner
  | _ => none

/-- The keys of a document that name no section and no rule, in order. -/
def strays (fields : Fields) : List Text :=
  (fields.map (·.1)).filter fun key =>
    !(sections.map (·.name)).contains (Text.lower key) && !Rules.isKey key

/-- A mapping of texts to values that hold no others under keys. -/
def IsSection (v : Value) : Prop :=
  ∃ inner, v = .mapping inner false ∧ ∀ field ∈ inner, ¬ IsMapping field.2

/-- A document whose sections map texts to scalars and lists. -/
def Sectioned (fields : Fields) : Prop :=
  ∀ s ∈ sections, ∀ v, documentSection? fields s = some v → IsSection v

/-- A document whose rules, if it has any, leave the reading of variables as it is and have no words
that set anything. -/
def Ruleless (host : Host) (fields : Fields) : Prop :=
  ∃ encoding hasWords, Rules.ofFields? fields = some { encoding, hasWords } ∧
    wordLayer host { hasWords } (ruleFields fields) = .ok []

instance : DecidablePred IsSection
  | .mapping inner false => decidable_of_iff (∀ field ∈ inner, ¬ IsMapping field.2)
    ⟨fun h => ⟨inner, rfl, h⟩, by rintro ⟨_, ⟨⟩, h⟩; exact h⟩
  | .mapping _ true | .null | .bool _ | .int _ | .real _ | .text _ | .bytes _ | .list _
  | .other _ =>
    isFalse (by rintro ⟨_, ⟨⟩, -⟩)

instance (fields : Fields) : Decidable (Sectioned fields) :=
  inferInstanceAs (Decidable (∀ s ∈ sections, ∀ v ∈ documentSection? fields s, IsSection v))

/-- The keys that tell the rules of a document. -/
def tellingKeys : List Text := Rules.ownKey :: Rules.wordsKey :: Rules.variableKeys

/-- The rules of a document are told by what it has under some keys. -/
lemma ofFields?_congr {fields' : Fields}
    (h : ∀ key ∈ tellingKeys, Json.field? key fields = Json.field? key fields') :
    Rules.ofFields? fields = Rules.ofFields? fields' := by
  have hsetting {key : Text} (hkey : key ∈ tellingKeys) :
      Rules.setting? key fields = Rules.setting? key fields' := by
    rw [Rules.setting?, h _ hkey, Rules.setting?]
  unfold Rules.ofFields?
  dsimp only
  rw [h Rules.ownKey List.mem_cons_self, hsetting (by decide), hsetting (by decide),
    hsetting (by decide), hsetting (by decide), hsetting (by decide), hsetting (by decide),
    hsetting (by decide), hsetting (by decide), hsetting (by decide), hsetting (by decide)]

/-- A document without keys that tell rules. -/
lemma ruleless_of_not_mem (host : Host) (h : ∀ field ∈ fields, field.1 ∉ tellingKeys) :
    Ruleless host fields := by
  have hnone : ∀ key ∈ tellingKeys, Json.field? key fields = Json.field? key ([] : Fields) := by
    intro key hkey
    rw [Json.field?_nil, Json.field?_eq_none_iff]
    intro hmem
    obtain ⟨field, hfield, rfl⟩ := List.mem_map.1 hmem
    exact h field hfield hkey
  refine ⟨.utf8, false, ?_, rfl⟩
  rw [ofFields?_congr hnone]
  rfl

/-- A first field with a key that names a section, over the others. -/
lemma documentLayer_cons_of_mem {names : List Text} {v : Value}
    (h : Text.lower key ∈ names) : documentLayer names ((key, v) :: fields) =
      ((Text.lower key, v) :: (documentLayer names fields).1.filter (·.1 ≠ Text.lower key),
        (documentLayer names fields).2) := by
  have hfind : names.find? (· = Text.lower key) = some (Text.lower key) := by
    cases hfind : names.find? (· = Text.lower key) with
    | none => exact absurd (List.find?_eq_none.1 hfind _ h) (by simp)
    | some name =>
      have hname : name = Text.lower key := by simpa using List.find?_some hfind
      rw [hname]
  rw [documentLayer, hfind]

lemma documentLayer_cons_of_not_mem {names : List Text} {v : Value}
    (h : Text.lower key ∉ names) : documentLayer names ((key, v) :: fields) =
      ((documentLayer names fields).1, key :: (documentLayer names fields).2) := by
  have hfind : names.find? (· = Text.lower key) = none := by
    refine List.find?_eq_none.2 fun name hname => ?_
    rw [decide_eq_true_iff]
    rintro rfl
    exact h hname
  rw [documentLayer, hfind]

/-- A section of a document stands under the first key that names it. -/
lemma field?_documentLayer {names : List Text} {name : Text} (hname : name ∈ names) :
    Json.field? name (documentLayer names fields).1 =
      (fields.find? fun field => Text.lower field.1 = name).map (·.2) := by
  induction fields with
  | nil => rfl
  | cons field fields ih =>
    obtain ⟨key, v⟩ := field
    rw [List.find?_cons]
    by_cases hkey : Text.lower key = name
    · rw [documentLayer_cons_of_mem (hkey ▸ hname), Json.field?_cons, if_pos hkey,
        decide_eq_true hkey]
      rfl
    · rw [decide_eq_false hkey, ← ih]
      by_cases hmem : Text.lower key ∈ names
      · rw [documentLayer_cons_of_mem hmem, Json.field?_cons, if_neg hkey,
          Json.field?_filter_ne (Ne.symm hkey)]
      · rw [documentLayer_cons_of_not_mem hmem]

lemma nodup_documentLayer (names : List Text) (fields : Fields) :
    ((documentLayer names fields).1.map (·.1)).Nodup := by
  induction fields with
  | nil => exact List.nodup_nil
  | cons field fields ih =>
    obtain ⟨key, v⟩ := field
    by_cases hmem : Text.lower key ∈ names
    · rw [documentLayer_cons_of_mem hmem, List.map_cons, List.nodup_cons]
      constructor
      · intro h
        obtain ⟨other, hother, hsame⟩ := List.mem_map.1 h
        have hne := (List.mem_filter.1 hother).2
        exact absurd hsame (by simpa using hne)
      · exact ih.sublist (List.filter_sublist.map _)
    · rw [documentLayer_cons_of_not_mem hmem]
      exact ih

lemma documentLayer_strays (names : List Text) (fields : Fields) :
    (documentLayer names fields).2 =
      (fields.map (·.1)).filter fun key => !names.contains (Text.lower key) := by
  induction fields with
  | nil => rfl
  | cons field fields ih =>
    obtain ⟨key, v⟩ := field
    rw [List.map_cons, List.filter_cons, ← ih]
    by_cases hmem : Text.lower key ∈ names
    · rw [documentLayer_cons_of_mem hmem, if_neg (by simpa using hmem)]
    · rw [documentLayer_cons_of_not_mem hmem, if_pos (by simpa using hmem)]

/-- **A document as a layer.** It holds what the document says. -/
theorem holds_documentLayer (h : Sectioned fields) :
    Holds (documentLayer (sections.map (·.name)) fields).1 (documentSetting? fields) := by
  intro s hs
  rw [field?_documentLayer (List.mem_map_of_mem hs)]
  change ∃ inner, HasFields (documentSection? fields s) inner ∧ _
  cases hsection : documentSection? fields s with
  | none =>
    refine ⟨[], Or.inl ⟨rfl, rfl⟩, fun key _ => ?_⟩
    rw [documentSetting?, hsection]
    rfl
  | some v =>
    obtain ⟨inner, rfl, -⟩ := h s hs v hsection
    refine ⟨inner, Or.inr ⟨false, rfl⟩, fun key _ => ?_⟩
    rw [documentSetting?, hsection]

end Config

end Retrace
