import Retrace.Proofs.Config.Settings

/-!
# Which setting counts

A setting is made by the document, else by its own variable, else by the JSON object of its section,
else it is left at its default.  `load_layered` says that this is all that counts: what is set over
does not matter, and neither does the order of variables or that of keys inside a section.

Two provisos are needed (`not_layered`).  Two keys of a JSON object may be for one setting, since
their case does not count; a variable for the setting then takes the place of one of them only, and
the later of the two counts.  And a document may have rules, under keys that name no section: about
how the environment is read, or words that set more than the document does.
-/

namespace Retrace

open Yaml (Value)

/-! ## Variables in another order -/

namespace Environment

variable {env env' : Environment}

lemma lookup_eq_field? (name : Text) (env : Environment) :
    List.lookup name env = Json.field? name env := by
  induction env with
  | nil => rfl
  | cons v env ih =>
    rw [Json.field?_cons, List.lookup_cons, ih]
    by_cases h : v.1 = name
    · simp [h]
    · have hne : (name == v.1) = false := by simpa using Ne.symm h
      rw [if_neg h, hne]

lemma get?_perm (h : env.Perm env') (hnodup : (env.map (·.1)).Nodup) (name : Text) :
    env.get? name = env'.get? name := by
  rw [get?, get?, lookup_eq_field?, lookup_eq_field?]
  exact Json.field?_perm h hnodup

lemma substitute_congr (h : ∀ name, env.get? name = env'.get? name) (t : Text) :
    env.substitute t = env'.substitute t := by
  have hpiece (piece : Piece) : piece.text env = piece.text env' := by
    cases piece with
    | char c => rfl
    | reference name => rw [Piece.text, Piece.text, h name]
  rw [substitute, substitute]
  generalize pieces t = ps
  induction ps with
  | nil => rfl
  | cons piece ps ih => rw [replace, replace, hpiece, ih]

end Environment

namespace Config

variable {host : Host} {tree : FileTree} {env env' : Environment} {path : Text}
  {fields fields' : Fields}
  {value value' : SectionNames → Text → Option Value}

lemma textOf?_perm (h : env.Perm env') (hnames : (env.map fun v => Text.lower v.1).Nodup)
    (name : Text) : env.textOf? name = env'.textOf? name := by
  rw [textOf?_eq_field?, textOf?_eq_field?]
  refine Json.field?_perm (h.map _) ?_
  rwa [List.map_map]

lemma object?_perm (h : env.Perm env') (hnames : (env.map fun v => Text.lower v.1).Nodup)
    (s : SectionNames) : object? env s = object? env' s := by
  rw [object?, object?, textOf?_perm h hnames]

lemma environmentSetting?_perm (h : env.Perm env')
    (hnames : (env.map fun v => Text.lower v.1).Nodup) (s : SectionNames) (key : Text) :
    environmentSetting? env s key = environmentSetting? env' s key := by
  rw [environmentSetting?, environmentSetting?, objectValue?, objectValue?, textOf?_perm h hnames,
    object?_perm h hnames]

lemma Separate.perm (henv : Separate env) (h : env.Perm env') : Separate env' where
  names := (h.map _).nodup_iff.1 henv.names
  objects s hs hset := by
    rw [← textOf?_perm h henv.names] at hset
    rw [← object?_perm h henv.names]
    exact henv.objects s hs hset
  keys s hs v hv := henv.keys s hs v (h.mem_iff.2 hv)

lemma Unambiguous.perm (hobjects : Unambiguous env) (henv : Separate env) (h : env.Perm env') :
    Unambiguous env' := by
  intro s hs object hobject
  rw [← object?_perm h henv.names] at hobject
  exact hobjects s hs object hobject

lemma HasDocument.perm {v : Value} (hdocument : HasDocument tree env path v) (henv : Separate env)
    (h : env.Perm env') : HasDocument tree env' path v := by
  obtain ⟨t, ⟨bytes, raw, hbytes, hraw, ht⟩, hload⟩ := hdocument
  have hnodup : (env.map (·.1)).Nodup := by
    refine List.Nodup.of_map Text.lower ?_
    rw [List.map_map]
    exact henv.names
  refine ⟨t, ⟨bytes, raw, hbytes, hraw, ?_⟩, hload⟩
  rw [← Environment.substitute_congr (Environment.get?_perm h hnodup), ht]

/-! ## Keys in another order -/

/-- Variables of one name that differ, if at all, in the order of the keys of a section's object. -/
def VariableAlike (v v' : Text × Text) : Prop :=
  v.1 = v'.1 ∧ (v.2 = v'.2 ∨ (∃ s ∈ sections, Text.lower v.1 = Text.lower s.variableName) ∧
    ∃ object object', Json.parse v.2 = .ok (.object object) ∧
      Json.parse v'.2 = .ok (.object object') ∧ object.Perm object')

/-- Fields of one key that differ, if at all, in the order of the keys of a section. -/
def FieldAlike (field field' : Text × Value) : Prop :=
  field.1 = field'.1 ∧ (field.2 = field'.2 ∨ (∃ s ∈ sections, Text.lower field.1 = s.name) ∧
    ∃ inner inner' otherKeys, field.2 = .mapping inner otherKeys ∧
      field'.2 = .mapping inner' otherKeys ∧ inner.Perm inner')

/-- Environments that differ in the order of the keys of objects for sections only. -/
def ObjectsPermuted (env env' : Environment) : Prop := List.Forall₂ VariableAlike env env'

/-- Documents that differ in the order of the keys inside their sections only. -/
def SectionsPermuted (fields fields' : Fields) : Prop := List.Forall₂ FieldAlike fields fields'

lemma keys_eq_of_forall₂ {α β : Type} {R : Text × α → Text × β → Prop} {xs : List (Text × α)}
    {ys : List (Text × β)} (hR : ∀ x y, R x y → x.1 = y.1) (h : List.Forall₂ R xs ys) :
    xs.map (·.1) = ys.map (·.1) := by
  induction h with
  | nil => rfl
  | cons hhead _ ih => rw [List.map_cons, List.map_cons, hR _ _ hhead, ih]

lemma ObjectsPermuted.names_eq (h : ObjectsPermuted env env') :
    env.map (·.1) = env'.map (·.1) :=
  keys_eq_of_forall₂ (fun _ _ halike => halike.1) h

lemma SectionsPermuted.keys_eq (h : SectionsPermuted fields fields') :
    fields.map (·.1) = fields'.map (·.1) :=
  keys_eq_of_forall₂ (fun _ _ halike => halike.1) h

lemma ObjectsPermuted.find? (h : ObjectsPermuted env env') (name : Text) :
    (env.find? (fun v => Text.lower v.1 = name) = none ∧
      env'.find? (fun v => Text.lower v.1 = name) = none) ∨
    ∃ v v', env.find? (fun v => Text.lower v.1 = name) = some v ∧
      env'.find? (fun v => Text.lower v.1 = name) = some v' ∧ VariableAlike v v' :=
  find?_forall₂ (fun v v' halike => by rw [halike.1]) h

lemma SectionsPermuted.find? (h : SectionsPermuted fields fields') (name : Text) :
    (fields.find? (fun field => Text.lower field.1 = name) = none ∧
      fields'.find? (fun field => Text.lower field.1 = name) = none) ∨
    ∃ field field', fields.find? (fun field => Text.lower field.1 = name) = some field ∧
      fields'.find? (fun field => Text.lower field.1 = name) = some field' ∧
      FieldAlike field field' :=
  find?_forall₂ (fun field field' halike => by rw [halike.1]) h

lemma keyVariableName_ne {s s' : SectionNames} {key : Text} (hs : s ∈ sections)
    (hkey : key ∈ s.keys) (hs' : s' ∈ sections) :
    Text.lower (s.keyVariableName key) ≠ Text.lower s'.variableName := by
  have h : ∀ s ∈ sections, ∀ key ∈ s.keys, ∀ s' ∈ sections,
      Text.lower (s.keyVariableName key) ≠ Text.lower s'.variableName := by decide +kernel
  exact h s hs key hkey s' hs'

lemma ObjectsPermuted.textOf?_key (h : ObjectsPermuted env env') {s : SectionNames} {key : Text}
    (hs : s ∈ sections) (hkey : key ∈ s.keys) :
    env.textOf? (s.keyVariableName key) = env'.textOf? (s.keyVariableName key) := by
  rw [Environment.textOf?, Environment.textOf?]
  rcases h.find? (Text.lower (s.keyVariableName key)) with
    ⟨hnone, hnone'⟩ | ⟨v, v', hv, hv', -, hsame | ⟨⟨s', hs', hname⟩, -⟩⟩
  · rw [hnone, hnone']
  · rw [hv, hv', Option.map_some, Option.map_some, hsame]
  · have hfound : Text.lower v.1 = Text.lower (s.keyVariableName key) := by
      simpa using List.find?_some hv
    exact absurd (hfound.symm.trans hname) (keyVariableName_ne hs hkey hs')

lemma ObjectsPermuted.object? (h : ObjectsPermuted env env') (s : SectionNames) :
    Config.object? env s = Config.object? env' s ∨ ∃ object object',
      Config.object? env s = some object ∧ Config.object? env' s = some object' ∧
      object.Perm object' := by
  rw [Config.object?, Config.object?, Environment.textOf?, Environment.textOf?]
  rcases h.find? (Text.lower s.variableName) with
    ⟨hnone, hnone'⟩ | ⟨v, v', hv, hv', -, hsame | ⟨-, object, object', hparse, hparse', hperm⟩⟩
  · rw [hnone, hnone']
    exact Or.inl rfl
  · rw [hv, hv', Option.map_some, Option.map_some, hsame]
    exact Or.inl rfl
  · refine Or.inr ⟨object, object', ?_, ?_, hperm⟩
    · rw [hv, Option.map_some, Option.map_some, hparse]
    · rw [hv', Option.map_some, Option.map_some, hparse']

lemma ObjectsPermuted.environmentSetting? (h : ObjectsPermuted env env')
    (hobjects : Unambiguous env) {s : SectionNames} {key : Text} (hs : s ∈ sections)
    (hkey : key ∈ s.keys) :
    Config.environmentSetting? env s key = Config.environmentSetting? env' s key := by
  rw [Config.environmentSetting?, Config.environmentSetting?, h.textOf?_key hs hkey, objectValue?,
    objectValue?]
  rcases h.object? s with hsame | ⟨object, object', hobject, hobject', hperm⟩
  · rw [hsame]
  · have hone := hobjects.length_filter hs hkey hobject
    rw [hobject, hobject', Option.bind_some, Option.bind_some, Json.find?_perm hperm hone]

lemma ObjectsPermuted.isSome_textOf? (h : ObjectsPermuted env env') (name : Text) :
    (env.textOf? name).isSome = (env'.textOf? name).isSome := by
  rw [Environment.textOf?, Environment.textOf?, Option.isSome_map, Option.isSome_map]
  rcases h.find? (Text.lower name) with ⟨hnone, hnone'⟩ | ⟨v, v', hv, hv', -⟩
  · rw [hnone, hnone']
  · rw [hv, hv']
    rfl

lemma ObjectsPermuted.separate (h : ObjectsPermuted env env') (henv : Separate env) :
    Separate env' where
  names := by
    have hlower (e : Environment) :
        (e.map fun v => Text.lower v.1) = (e.map (·.1)).map Text.lower := by
      rw [List.map_map]
      rfl
    rw [hlower, ← h.names_eq, ← hlower]
    exact henv.names
  objects s hs hset := by
    rw [← h.isSome_textOf?] at hset
    rcases h.object? s with hsame | ⟨object, object', -, hobject', -⟩
    · exact hsame ▸ henv.objects s hs hset
    · rw [hobject']
      rfl
  keys s hs v hv rest hname := by
    have hmem : v.1 ∈ env.map (·.1) := h.names_eq ▸ List.mem_map_of_mem hv
    obtain ⟨w, hw, hsame⟩ := List.mem_map.1 hmem
    exact henv.keys s hs w hw rest (hsame ▸ hname)

lemma ObjectsPermuted.unambiguous (h : ObjectsPermuted env env') (hobjects : Unambiguous env) :
    Unambiguous env' := by
  intro s hs object' hobject' key hkey
  rcases h.object? s with hsame | ⟨object, other, hobject, hother, hperm⟩
  · exact hobjects s hs object' (hsame.trans hobject') key hkey
  · obtain rfl := Option.some.inj (hother.symm.trans hobject')
    rw [← (hperm.map _).count_eq]
    exact hobjects s hs object hobject key hkey

lemma SectionsPermuted.documentSection? (h : SectionsPermuted fields fields') (s : SectionNames) :
    Config.documentSection? fields s = Config.documentSection? fields' s ∨
      ∃ inner inner' otherKeys,
        Config.documentSection? fields s = some (.mapping inner otherKeys) ∧
        Config.documentSection? fields' s = some (.mapping inner' otherKeys) ∧
        inner.Perm inner' := by
  rw [Config.documentSection?, Config.documentSection?]
  rcases h.find? s.name with ⟨hnone, hnone'⟩ | ⟨field, field', hfield, hfield', -, halike⟩
  · rw [hnone, hnone']
    exact Or.inl rfl
  · rw [hfield, hfield', Option.map_some, Option.map_some]
    rcases halike with hsame | ⟨-, inner, inner', otherKeys, hinner, hinner', hperm⟩
    · exact Or.inl (by rw [hsame])
    · exact Or.inr ⟨inner, inner', otherKeys, by rw [hinner], by rw [hinner'], hperm⟩

lemma SectionsPermuted.sectioned (h : SectionsPermuted fields fields')
    (hsections : Sectioned fields) : Sectioned fields' := by
  intro s hs v hv
  rcases h.documentSection? s with hsame | ⟨inner, inner', otherKeys, hinner, hinner', hperm⟩
  · exact hsections s hs v (hsame.trans hv)
  · obtain ⟨_, hmapping, hflat⟩ := hsections s hs _ hinner
    obtain ⟨rfl, rfl⟩ := Value.mapping.inj hmapping
    obtain rfl := Option.some.inj (hinner'.symm.trans hv)
    exact ⟨inner', rfl, fun field hfield => hflat field (hperm.mem_iff.2 hfield)⟩

lemma SectionsPermuted.documentSetting? (h : SectionsPermuted fields fields')
    (hsections : Sectioned fields) (hdistinct : (Value.mapping fields false).Distinct)
    {s : SectionNames} (hs : s ∈ sections) (key : Text) :
    Config.documentSetting? fields s key = Config.documentSetting? fields' s key := by
  rw [Config.documentSetting?, Config.documentSetting?]
  rcases h.documentSection? s with hsame | ⟨inner, inner', otherKeys, hinner, hinner', hperm⟩
  · rw [hsame]
  · have hnodup := (hsections.flat hdistinct hs (Or.inr ⟨otherKeys, hinner⟩)).1
    rw [hinner, hinner']
    exact Json.field?_perm hperm hnodup

lemma SectionsPermuted.field?_eq (h : SectionsPermuted fields fields') {key : Text}
    (hkey : ∀ s ∈ sections, Text.lower key ≠ s.name) :
    Json.field? key fields = Json.field? key fields' := by
  rw [Json.field?_eq_find?, Json.field?_eq_find?]
  rcases find?_forall₂ (p := fun field => field.1 = key) (q := fun field => field.1 = key)
    (fun field field' halike => by rw [halike.1]) h with
    ⟨hnone, hnone'⟩ | ⟨field, field', hfield, hfield', -, hsame | ⟨⟨s, hs, hname⟩, -⟩⟩
  · rw [hnone, hnone']
  · rw [hfield, hfield', Option.map_some, Option.map_some, hsame]
  · have hfound : field.1 = key := by simpa using List.find?_some hfield
    exact absurd (hfound ▸ hname) (hkey s hs)

/-- The keys of rules name no section, so their fields are the same. -/
lemma SectionsPermuted.ruleFields_eq (h : SectionsPermuted fields fields') :
    ruleFields fields = ruleFields fields' := by
  rw [ruleFields, ruleFields]
  induction h with
  | nil => rfl
  | @cons field field' rest rest' halike _ ih =>
    obtain ⟨key, v⟩ := field
    obtain ⟨key', v'⟩ := field'
    obtain ⟨hkey, halike⟩ := halike
    obtain rfl : key = key' := hkey
    rw [List.filter_cons, List.filter_cons, ih]
    dsimp only
    cases hrule : Rules.isKey key with
    | false => rfl
    | true =>
      rcases halike with hsame | ⟨⟨s, hs, hname⟩, -⟩
      · obtain rfl : v = v' := hsame
        rfl
      · exact absurd (hname ▸ List.mem_map_of_mem hs) (lower_not_mem_of_isKey hrule)

lemma SectionsPermuted.ruleless (h : SectionsPermuted fields fields')
    (hrules : Ruleless host fields) : Ruleless host fields' := by
  have hnames : ∀ key ∈ tellingKeys, ∀ s ∈ sections, Text.lower key ≠ s.name := by
    decide +kernel
  obtain ⟨encoding, hasWords, hrules, hwords⟩ := hrules
  refine ⟨encoding, hasWords, ?_, h.ruleFields_eq ▸ hwords⟩
  rw [← hrules]
  exact (ofFields?_congr fun key hkey => h.field?_eq (hnames key hkey)).symm

/-! ## Precedence -/

/-- A configuration of settings depends on nothing but what is known of them. -/
lemma configured_congr (h : ∀ s ∈ sections, ∀ key ∈ s.keys, value s key = value' s key)
    (strays : List Text) : configured value strays = configured value' strays := by
  have hholds : Holds (flatLayer value) value' := by
    intro s hs
    obtain ⟨inner, hinner, hkeys⟩ := holds_flatLayer value s hs
    exact ⟨inner, hinner, fun key hkey => (hkeys key hkey).trans (h s hs key hkey)⟩
  rw [configured, readLayer_congr hholds (holds_flatLayer value'), configured]

/-- **Which setting counts.** The configuration of a document over an environment has for every
setting what the document says, else what the setting's own variable says, else what the JSON object
of its section says, read on its own, and else the default; it is refused only if one of these is,
if a key of the document names no section, or if the settings do not go together.  What is set over
does not come in, and neither does the order of variables, of the keys of a JSON object, or of the
keys inside a section.  Without a document it is what the environment says that counts. -/
theorem load_layered (hdocument : HasDocument tree env path (.mapping fields false))
    (hsections : Sectioned fields) (hrules : Ruleless host fields) (henv : Separate env)
    (hobjects : Unambiguous env) :
    load host tree env (some path) = configured (effective? env fields) (strays fields) ∧
      (∀ c, load host tree env (some path) = .ok c ↔
        strays fields = [] ∧ Settles (effective? env fields) c ∧ c.conflict? = none) ∧
      (∀ c, load host tree env none = .ok c ↔
        Settles (environmentSetting? env) c ∧ c.conflict? = none) ∧
      (∀ tree' env' path', HasDocument tree' env' path' (.mapping fields false) →
        Separate env' → Unambiguous env' →
        (∀ s ∈ sections, ∀ key ∈ s.keys, documentSetting? fields s key = none →
          environmentSetting? env' s key = environmentSetting? env s key) →
        load host tree' env' (some path') = load host tree env (some path)) ∧
      (∀ env', env.Perm env' → load host tree env' (some path) = load host tree env (some path)) ∧
      ∀ tree' env' path' fields', HasDocument tree' env' path' (.mapping fields' false) →
        ObjectsPermuted env env' → SectionsPermuted fields fields' →
        load host tree' env' (some path') = load host tree env (some path) := by
  have hload := load_eq_configured hdocument hsections hrules henv hobjects
  refine ⟨hload, fun c => ?_, fun c => ?_, ?_, ?_, ?_⟩
  · rw [hload, configured_eq_ok_iff]
  · rw [load_none_eq_configured host tree henv hobjects, configured_eq_ok_iff]
    exact and_iff_right rfl
  · intro tree' env' path' hdocument' henv' hobjects' hunder
    rw [hload, load_eq_configured hdocument' hsections hrules henv' hobjects']
    refine configured_congr (fun s hs key hkey => ?_) _
    rw [effective?, effective?]
    cases h : documentSetting? fields s key with
    | none => rw [hunder s hs key hkey h]
    | some v => rfl
  · intro env' hperm
    rw [hload, load_eq_configured (hdocument.perm henv hperm) hsections hrules (henv.perm hperm)
      (hobjects.perm henv hperm)]
    refine configured_congr (fun s hs key hkey => ?_) _
    rw [effective?, effective?, environmentSetting?_perm hperm henv.names]
  · intro tree' env' path' fields' hdocument' henv' hfields
    rw [hload, load_eq_configured hdocument' (hfields.sectioned hsections) (hfields.ruleless hrules)
      (henv'.separate henv) (henv'.unambiguous hobjects), strays, strays, hfields.keys_eq]
    refine configured_congr (fun s hs key hkey => ?_) _
    rw [effective?, effective?, henv'.environmentSetting? hobjects hs hkey,
      hfields.documentSetting? hsections hdocument.distinct hs]

/-! ### Settings in all places -/

/-- The plain host of a program without words of its own. -/
def plainHost : Host := .plain [] []

/-- A tree with a configuration of a text. -/
def treeOf (t : String) : FileTree where
  items := [(["c.yaml".toList], .file (Utf8.encode t.toList))]

mutual

/-- Whether values are put together from the same texts. -/
def sameTexts : Value → Value → Bool
  | .text t, .text u => t = u
  | .list items, .list items' => sameItems items items'
  | .mapping fields false, .mapping fields' false => sameFields fields fields'
  | _, _ => false

/-- Whether the items of lists are put together from the same texts. -/
def sameItems : List Value → List Value → Bool
  | [], [] => true
  | v :: items, v' :: items' => sameTexts v v' && sameItems items items'
  | _, _ => false

/-- Whether fields are put together from the same texts. -/
def sameFields : Fields → Fields → Bool
  | [], [] => true
  | (key, v) :: fields, (key', v') :: fields' =>
    key = key' && sameTexts v v' && sameFields fields fields'
  | _, _ => false

end

mutual

lemma eq_of_sameTexts (v w : Value) (h : sameTexts v w = true) : v = w := by
  unfold sameTexts at h
  split at h
  · rw [of_decide_eq_true h]
  · rw [eq_of_sameItems _ _ h]
  · rw [eq_of_sameFields _ _ h]
  · cases h

lemma eq_of_sameItems (items items' : List Value) (h : sameItems items items' = true) :
    items = items' := by
  unfold sameItems at h
  split at h
  · rfl
  · rw [Bool.and_eq_true] at h
    rw [eq_of_sameTexts _ _ h.1, eq_of_sameItems _ _ h.2]
  · cases h

lemma eq_of_sameFields (fields fields' : Fields) (h : sameFields fields fields' = true) :
    fields = fields' := by
  unfold sameFields at h
  split at h
  · rfl
  · rw [Bool.and_eq_true, Bool.and_eq_true] at h
    rw [of_decide_eq_true h.1.1, eq_of_sameTexts _ _ h.1.2, eq_of_sameFields _ _ h.2]
  · cases h

end

lemma load_eq_ok_of_sameTexts {t : Text} {v : Value}
    (h : ((Yaml.load documentDepth t).toOption.any fun w => sameTexts w v) = true) :
    Yaml.load documentDepth t = .ok v := by
  cases hload : Yaml.load documentDepth t with
  | error f =>
    rw [hload] at h
    cases h
  | ok w =>
    rw [hload] at h
    rw [eq_of_sameTexts w v h]

lemma hasDocument_treeOf {t : String} {v : Value}
    (hbytes : Utf8.decode (Utf8.encode t.toList) = .ok t.toList)
    (ht : env.substitute (Text.unifyLineEnds t.toList) = .ok t.toList)
    (hload : ((Yaml.load documentDepth t.toList).toOption.any fun w => sameTexts w v) = true) :
    HasDocument (treeOf t) env "c.yaml".toList v :=
  ⟨t.toList, ⟨Utf8.encode t.toList, t.toList, rfl, hbytes, ht⟩, load_eq_ok_of_sameTexts hload⟩

/-- A document with a marker. -/
def layeredText : String := "Trace: \x7bmarker: m\x7d"

/-- The fields of the document with a marker. -/
def layeredFields : Fields :=
  [("Trace".toList, .mapping [("marker".toList, .text "m".toList)] false)]

/-- Variables for the marker, for the level, and for the section of the marker, whose object has a
marker that is no text. -/
def layeredEnvironment : Environment := [
  ("crashlyfix_trace__MARKER".toList, "v".toList),
  ("CRASHLYFIX_LOGGING__LEVEL".toList, "ERROR".toList),
  ("CRASHLYFIX_TRACE".toList, "\x7b\"Marker\":3,\"block_separator\":\"s\\n\"\x7d".toList)]

lemma hasDocument_layered : HasDocument (treeOf layeredText) layeredEnvironment "c.yaml".toList
    (.mapping layeredFields false) :=
  hasDocument_treeOf (by decide +kernel) (by decide +kernel) (by decide +kernel)

theorem load_layered_reversed :
    (HasDocument (treeOf layeredText) layeredEnvironment "c.yaml".toList
        (.mapping layeredFields false) ∧
      Sectioned layeredFields ∧ Ruleless plainHost layeredFields ∧ Separate layeredEnvironment ∧
      Unambiguous layeredEnvironment) ∧
      load plainHost (treeOf layeredText) layeredEnvironment.reverse (some "c.yaml".toList) = .ok {
        trace := { marker := "m".toList, separator := "s\n".toList }
        logging := { level := .error } } := by
  have hsections : Sectioned layeredFields := by decide +kernel
  have hrules : Ruleless plainHost layeredFields := ruleless_of_not_mem plainHost (by decide)
  have henv : Separate layeredEnvironment := by decide +kernel
  have hobjects : Unambiguous layeredEnvironment := by decide +kernel
  obtain ⟨-, hok, -, -, hperm, -⟩ :=
    load_layered hasDocument_layered hsections hrules henv hobjects
  refine ⟨⟨hasDocument_layered, hsections, hrules, henv, hobjects⟩, ?_⟩
  rw [hperm _ (List.reverse_perm _).symm, hok]
  exact ⟨by decide +kernel, by decide +kernel, by decide +kernel⟩

/-! ### The provisos -/

/-- A document with another setting than the marker. -/
def otherText : String := "format: \x7bexcluded_prefix_marker: n\x7d"

/-- Its fields. -/
def otherFields : Fields :=
  [("format".toList, .mapping [("excluded_prefix_marker".toList, .text "n".toList)] false)]

/-- A variable for the marker, and one for its section whose object has two keys for the marker. -/
def ambiguousEnvironment : Environment := [
  ("CRASHLYFIX_TRACE".toList, "\x7b\"marker\":\"b\",\"MARKER\":\"a\"\x7d".toList),
  ("CRASHLYFIX_TRACE__MARKER".toList, "x".toList)]

lemma hasDocument_other : HasDocument (treeOf otherText) ambiguousEnvironment "c.yaml".toList
    (.mapping otherFields false) :=
  hasDocument_treeOf (by decide +kernel) (by decide +kernel) (by decide +kernel)

/-- A document with a rule about the names of variables. -/
def ruledText : String := "_env_prefix: X_"

/-- Its fields. -/
def ruledFields : Fields := [("_env_prefix".toList, .text "X_".toList)]

/-- A variable for the marker. -/
def markedEnvironment : Environment := [("CRASHLYFIX_TRACE__MARKER".toList, "x".toList)]

lemma hasDocument_ruled : HasDocument (treeOf ruledText) markedEnvironment "c.yaml".toList
    (.mapping ruledFields false) :=
  hasDocument_treeOf (by decide +kernel) (by decide +kernel) (by decide +kernel)

/-- A document with a marker, and with words that set another one. -/
def wordedText : String := "trace: \x7bmarker: m\x7d\n_cli_parse_args: [--trace.marker=w]"

/-- Its fields. -/
def wordedFields : Fields := [
  ("trace".toList, .mapping [("marker".toList, .text "m".toList)] false),
  (Rules.wordsKey, .list [.text "--trace.marker=w".toList])]

lemma hasDocument_worded :
    HasDocument (treeOf wordedText) [] "c.yaml".toList (.mapping wordedFields false) :=
  hasDocument_treeOf (by decide +kernel) (by decide +kernel) (by decide +kernel)

/-- **The provisos are needed.** With two keys for the marker in the object of its section, the
later one counts and not the variable of the marker.  With a rule about names in the document, the
variable of the marker does not count either.  With words in the document, what they set counts and
not what the document says. -/
theorem not_layered :
    (HasDocument (treeOf otherText) ambiguousEnvironment "c.yaml".toList
        (.mapping otherFields false) ∧
      Sectioned otherFields ∧ Ruleless plainHost otherFields ∧ Separate ambiguousEnvironment ∧
      object? ambiguousEnvironment traceNames =
        some [("marker".toList, .text "b".toList), ("MARKER".toList, .text "a".toList)] ∧
      effective? ambiguousEnvironment otherFields traceNames "marker".toList =
        some (.text "x".toList) ∧
      (load plainHost (treeOf otherText) ambiguousEnvironment (some "c.yaml".toList)).map
        (·.trace.marker) = .ok "a".toList) ∧
    (HasDocument (treeOf ruledText) markedEnvironment "c.yaml".toList (.mapping ruledFields false) ∧
      Sectioned ruledFields ∧ Separate markedEnvironment ∧ Unambiguous markedEnvironment ∧
      effective? markedEnvironment ruledFields traceNames "marker".toList =
        some (.text "x".toList) ∧
      (load plainHost (treeOf ruledText) markedEnvironment (some "c.yaml".toList)).map
        (·.trace.marker) = .ok Trace.defaultMarker) ∧
    HasDocument (treeOf wordedText) [] "c.yaml".toList (.mapping wordedFields false) ∧
      Sectioned wordedFields ∧ Separate [] ∧ Unambiguous [] ∧
      effective? [] wordedFields traceNames "marker".toList = some (.text "m".toList) ∧
      (load plainHost (treeOf wordedText) [] (some "c.yaml".toList)).map (·.trace.marker) =
        .ok "w".toList := by
  refine ⟨⟨hasDocument_other, by decide +kernel, ruleless_of_not_mem plainHost (by decide),
    by decide +kernel, ?_, ?_, by decide +kernel⟩,
    ⟨hasDocument_ruled, by decide +kernel, by decide +kernel, by decide +kernel, ?_,
      by decide +kernel⟩,
    hasDocument_worded, by decide +kernel, by decide +kernel, by decide +kernel, rfl,
    by decide +kernel⟩
  · have hparse : Json.parse "\x7b\"marker\":\"b\",\"MARKER\":\"a\"\x7d".toList =
        .ok (.object
          [("marker".toList, .text "b".toList), ("MARKER".toList, .text "a".toList)]) := by
      cbv
    exact object?_eq_some_iff.2 ⟨_, by decide +kernel, hparse⟩
  · have hvariable : ambiguousEnvironment.textOf? (traceNames.keyVariableName "marker".toList) =
        some "x".toList := by decide +kernel
    have hdocument : (documentSetting? otherFields traceNames "marker".toList).isNone = true := by
      decide +kernel
    rw [effective?, environmentSetting?, hvariable, Option.isNone_iff_eq_none.1 hdocument]
    rfl
  · have hvariable : markedEnvironment.textOf? (traceNames.keyVariableName "marker".toList) =
        some "x".toList := by decide +kernel
    have hdocument : (documentSetting? ruledFields traceNames "marker".toList).isNone = true := by
      decide +kernel
    rw [effective?, environmentSetting?, hvariable, Option.isNone_iff_eq_none.1 hdocument]
    rfl

end Config

end Retrace
