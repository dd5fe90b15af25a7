import Retrace.Config.Load
import Retrace.Proofs.Json.Fields
import Retrace.Proofs.Text.Case
import Retrace.Proofs.Text.Cutting
import Retrace.Proofs.Traversal

/-!
# Layers, key by key

What a layer says is told by looking up the keys of its sections (`Holds`): a section may be absent,
which is as good as empty, and keys that no setting has do not count.  Two layers that hold the same
are read alike (`readLayer_congr`), and a layer over another one holds what the upper one holds, and
else what the lower one does (`Holds.over`).
-/

namespace Retrace.Config

open Yaml (Value)

/-! ## Fields over fields -/

/-- Whether a value holds others under keys. -/
def IsMapping (v : Value) : Prop := ∃ fields otherKeys, v = .mapping fields otherKeys

instance : DecidablePred IsMapping
  | .mapping fields otherKeys => isTrue ⟨fields, otherKeys, rfl⟩
  | .null | .bool _ | .int _ | .real _ | .text _ | .bytes _ | .list _ | .other _ =>
    isFalse (by rintro ⟨_, _, ⟨⟩⟩)

lemma valueOver_of_not_mapping {under v : Value} (h : ¬ IsMapping v) : valueOver under v = v := by
  cases v with
  | mapping fields otherKeys => exact absurd ⟨fields, otherKeys, rfl⟩ h
  | _ => simp only [valueOver]

/-- What stands under a key of one layer over another one. -/
lemma field?_fieldsOver {key : Text} {under upper : Fields} (hnodup : (upper.map (·.1)).Nodup) :
    Json.field? key (fieldsOver under upper) =
      match Json.field? key upper with
      | none => Json.field? key under
      | some v => some (((Json.field? key under).map (valueOver · v)).getD v) := by
  induction upper generalizing under with
  | nil => rfl
  | cons field upper ih =>
    obtain ⟨first, v⟩ := field
    obtain ⟨hfirst, hrest⟩ := List.nodup_cons.1 hnodup
    rw [fieldsOver, ih hrest, Json.field?_cons]
    by_cases hkey : first = key
    · subst hkey
      rw [Json.field?_eq_none_iff.2 hfirst, if_pos rfl]
      dsimp only
      rw [Json.field?_setField_self]
      cases Json.field? first under <;> rfl
    · rw [if_neg hkey, Json.field?_setField_of_ne (Ne.symm hkey)]

/-- Values that are no mappings take the place of those under them. -/
lemma fieldsOver_eq_setFields {under upper : Fields} (h : ∀ field ∈ upper, ¬ IsMapping field.2) :
    fieldsOver under upper = Json.setFields upper under := by
  induction upper generalizing under with
  | nil => rfl
  | cons field upper ih =>
    obtain ⟨key, v⟩ := field
    have hv : ¬ IsMapping v := h _ List.mem_cons_self
    have hrest : ∀ other ∈ upper, ¬ IsMapping other.2 := fun other hother =>
      h other (List.mem_cons_of_mem _ hother)
    rw [fieldsOver, Json.setFields_cons, ih hrest]
    cases Json.field? key under with
    | none => rfl
    | some w => simp only [valueOver_of_not_mapping hv]

lemma nodup_fieldsOver {under : Fields} (upper : Fields) (h : (under.map (·.1)).Nodup) :
    ((fieldsOver under upper).map (·.1)).Nodup := by
  induction upper generalizing under with
  | nil => exact h
  | cons field upper ih => exact ih (Json.nodup_setField h)

/-- Fields over none are left as they are. -/
lemma fieldsOver_nil {upper : Fields} (hnodup : (upper.map (·.1)).Nodup) :
    fieldsOver [] upper = upper := by
  -- The keys are still to come, so none of them stands in what has been put together.
  have hfresh : ∀ under : Fields, (under ++ upper |>.map (·.1)).Nodup →
      fieldsOver under upper = under ++ upper := by
    clear hnodup
    induction upper with
    | nil =>
      intro under _
      exact (List.append_nil under).symm
    | cons field upper ih =>
      intro under h
      have hkey : field.1 ∉ under.map (·.1) := by
        rw [List.map_append, List.map_cons, List.nodup_append] at h
        exact fun hmem => h.2.2 _ hmem _ List.mem_cons_self rfl
      rw [fieldsOver, Json.field?_eq_none_iff.2 hkey]
      dsimp only
      rw [Json.setField_of_not_mem hkey, ih _ (by simpa using h), List.append_assoc,
        List.singleton_append]
  exact hfresh [] hnodup

/-! ## Sections -/

/-- A section of a layer with just these fields.  One that is absent is as good as an empty one. -/
def HasFields (v : Option Value) (fields : Fields) : Prop :=
  (v = none ∧ fields = []) ∨ ∃ otherKeys, v = some (.mapping fields otherKeys)

/-- A layer says under the keys of its sections what `value` says. -/
def Holds (layer : Fields) (value : SectionNames → Text → Option Value) : Prop :=
  ∀ s ∈ sections, ∃ fields, HasFields (Json.field? s.name layer) fields ∧
    ∀ key ∈ s.keys, Json.field? key fields = value s key

lemma HasFields.readSection {α : Type} {name : Text} {read : Fields → Checked α} {default : α}
    {layer fields : Fields} (h : HasFields (Json.field? name layer) fields)
    (hread : read [] = ⟨some default, []⟩) : readSection name read default layer = read fields := by
  unfold Config.readSection
  rcases h with ⟨hnone, rfl⟩ | ⟨otherKeys, hsome⟩
  · rw [hnone, hread]
  · rw [hsome]

lemma second_mem {α : Type} {first second : α} {rest : List α} :
    second ∈ first :: second :: rest :=
  List.mem_cons_of_mem _ List.mem_cons_self

lemma traceNames_mem : traceNames ∈ sections := List.mem_cons_self

lemma formatNames_mem : formatNames ∈ sections := second_mem

lemma loggingNames_mem : loggingNames ∈ sections := List.mem_cons_of_mem _ second_mem

/-- Whether fields have the same under the keys of a section. -/
def Agree (s : SectionNames) (fields fields' : Fields) : Prop :=
  ∀ key ∈ s.keys, Json.field? key fields = Json.field? key fields'

lemma readKey_congr {α : Type} {name key : Text} {read : Value → Except ProblemKind α} {default : α}
    {fields fields' : Fields} (h : Json.field? key fields = Json.field? key fields') :
    readKey name key read default fields = readKey name key read default fields' := by
  rw [readKey, readKey, h]

lemma readTrace_congr {fields fields' : Fields} (h : Agree traceNames fields fields') :
    readTrace fields = readTrace fields' := by
  rw [readTrace, readTrace, readKey_congr (h "marker".toList List.mem_cons_self),
    readKey_congr (h "block_separator".toList second_mem)]

lemma readFormat_congr {fields fields' : Fields} (h : Agree formatNames fields fields') :
    readFormat fields = readFormat fields' := by
  rw [readFormat, readFormat, readKey_congr (h "shorten".toList List.mem_cons_self),
    readKey_congr (h "excluded_prefix_marker".toList second_mem)]

lemma readLogging_congr {fields fields' : Fields} (h : Agree loggingNames fields fields') :
    readLogging fields = readLogging fields' := by
  rw [readLogging, readLogging, readKey_congr (h "level".toList List.mem_cons_self),
    readKey_congr (h "format".toList second_mem)]

lemma readSection_congr {α : Type} {s : SectionNames} {read : Fields → Checked α} {default : α}
    {layer layer' : Fields} {value : SectionNames → Text → Option Value} (hs : s ∈ sections)
    (hempty : read [] = ⟨some default, []⟩)
    (hread : ∀ {fields fields'}, Agree s fields fields' → read fields = read fields')
    (h : Holds layer value) (h' : Holds layer' value) :
    readSection s.name read default layer = readSection s.name read default layer' := by
  obtain ⟨fields, hfields, hkeys⟩ := h s hs
  obtain ⟨fields', hfields', hkeys'⟩ := h' s hs
  rw [hfields.readSection hempty, hfields'.readSection hempty]
  exact hread fun key hkey => (hkeys key hkey).trans (hkeys' key hkey).symm

/-- Layers that hold the same are read alike. -/
theorem readLayer_congr {layer layer' : Fields} {value : SectionNames → Text → Option Value}
    (h : Holds layer value) (h' : Holds layer' value) (strays : List Text) :
    readLayer layer strays = readLayer layer' strays := by
  have htrace : readSection "trace".toList readTrace {} layer =
      readSection "trace".toList readTrace {} layer' :=
    readSection_congr traceNames_mem rfl readTrace_congr h h'
  have hformat : readSection "format".toList readFormat {} layer =
      readSection "format".toList readFormat {} layer' :=
    readSection_congr formatNames_mem rfl readFormat_congr h h'
  have hlogging : readSection "logging".toList readLogging {} layer =
      readSection "logging".toList readLogging {} layer' :=
    readSection_congr loggingNames_mem rfl readLogging_congr h h'
  unfold readLayer
  dsimp only
  rw [htrace, hformat, hlogging]

/-- A layer of sections without mappings in them, over a layer: what it sets counts. -/
lemma Holds.over {under upper : Fields} {below above : SectionNames → Text → Option Value}
    (hunder : Holds under below) (hupper : Holds upper above) (hnodup : (upper.map (·.1)).Nodup)
    (hflat : ∀ s ∈ sections, ∀ fields, HasFields (Json.field? s.name upper) fields →
      (fields.map (·.1)).Nodup ∧ ∀ field ∈ fields, ¬ IsMapping field.2) :
    Holds (fieldsOver under upper) fun s key => (above s key).or (below s key) := by
  intro s hs
  obtain ⟨fields, hfields, hkeys⟩ := hunder s hs
  obtain ⟨fields', hfields', hkeys'⟩ := hupper s hs
  obtain ⟨hdistinct, hplain⟩ := hflat s hs fields' hfields'
  have hlookup (key : Text) : Json.field? key (Json.setFields fields' fields) =
      (Json.field? key fields').or (Json.field? key fields) := by
    rw [Json.field?_setFields, ← Json.field?_perm (List.reverse_perm fields').symm hdistinct]
  refine ⟨Json.setFields fields' fields, ?_, fun key hkey => ?_⟩
  · rw [field?_fieldsOver hnodup]
    rcases hfields' with ⟨hnone, rfl⟩ | ⟨otherKeys, hsome⟩
    · rw [hnone]
      exact hfields
    · rw [hsome]
      rcases hfields with ⟨hnone, rfl⟩ | ⟨underOther, hsection⟩
      · rw [hnone, Json.setFields_nil_of_nodup fields' hdistinct]
        exact Or.inr ⟨otherKeys, rfl⟩
      · rw [hsection]
        refine Or.inr ⟨underOther || otherKeys, ?_⟩
        rw [← fieldsOver_eq_setFields hplain]
        simp only [Option.map_some, Option.getD_some, valueOver]
  · rw [hlookup, hkeys key hkey, hkeys' key hkey]

end Retrace.Config
