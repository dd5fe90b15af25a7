import Retrace.Proofs.Json.RoundTrip
import Retrace.Proofs.SourceMap.Encoding
import Retrace.SourceMap.Basic

/-!
# Documents of regular maps

`HasMap` says which fields of a JSON object make it a regular map, whatever else it has: its
sources, its names and its mappings, without a root.  A text of such an object (`IsMapText`) is
loaded as the table of the lines that its mappings encode (`load_of_isMapText`).  The document that
`mapDocument` makes is printed as one (`isMapText_print`).
-/

namespace Retrace.SourceMap

/-! ## Documents -/

/-- A key that is missing or null. -/
def Lacks (key : String) (fields : List (Text × Json)) : Prop :=
  Json.field? key.toList fields = none ∨ Json.field? key.toList fields = some .null

/-- The fields of a regular map with texts as its sources and names, under no root. -/
structure HasMap (fields : List (Text × Json)) (sources names : List Text) (mappings : Text) :
    Prop where
  sources : Json.field? "sources".toList fields = some (.list (sources.map .text))
  names : Json.field? "names".toList fields = some (.list (names.map .text))
  mappings : Json.field? "mappings".toList fields = some (.text mappings)
  root : Lacks "sourceRoot" fields

/-- A text whose document is one of a regular map. -/
def IsMapText (t : Text) (sources names : List Text) (mappings : Text) : Prop :=
  ∃ fields, Json.parse t = .ok (.object fields) ∧ HasMap fields sources names mappings ∧
    Lacks "sections" fields

/-- The fields of a regular map. -/
def mapFields (sources names : List Text) (mappings : Text) : List (Text × Json) :=
  [("version".toList, .int 3), ("sources".toList, .list (sources.map .text)),
    ("names".toList, .list (names.map .text)), ("mappings".toList, .text mappings)]

/-- The document of a regular map. -/
def mapDocument (sources names : List Text) (mappings : Text) : Json :=
  .object (mapFields sources names mappings)

lemma hasMap_mapFields (sources names : List Text) (mappings : Text) :
    HasMap (mapFields sources names mappings) sources names mappings :=
  ⟨rfl, rfl, rfl, Or.inl rfl⟩

/-! ## Printing -/

lemma plainItems_text (ts : List Text) : Json.PlainItems (ts.map .text) := by
  induction ts with
  | nil => trivial
  | cons t ts ih => exact ⟨trivial, ih⟩

lemma longItem?_text (ts : List Text) : Json.longItem? (ts.map .text) = none := by
  induction ts with
  | nil => rfl
  | cons t ts ih =>
    rw [List.map_cons, Json.longItem?_cons, Json.longNumber?_text, ih]
    rfl

lemma plain_mapDocument (sources names : List Text) (mappings : Text) :
    Json.Plain (mapDocument sources names mappings) := by
  refine ⟨?_, trivial, plainItems_text sources, plainItems_text names, trivial, trivial⟩
  change ["version".toList, "sources".toList, "names".toList, "mappings".toList].Nodup
  decide

lemma longNumber?_mapDocument (sources names : List Text) (mappings : Text) :
    Json.longNumber? (mapDocument sources names mappings) = none := by
  have hversion : Json.longNumber? (.int 3) = none := rfl
  simp only [mapDocument, mapFields, Json.longNumber?_object, Json.longField?_cons,
    Json.longField?_nil, Json.longNumber?_list, Json.longNumber?_text, hversion, longItem?_text,
    Option.or_none]

/-- The document of a regular map is read from the text it is printed as. -/
theorem isMapText_print (sources names : List Text) (mappings : Text) :
    IsMapText (Json.print (mapDocument sources names mappings)) sources names mappings := by
  refine ⟨_, ?_, hasMap_mapFields sources names mappings, Or.inl rfl⟩
  rw [Json.parse_print (plain_mapDocument sources names mappings), longNumber?_mapDocument]
  rfl

/-! ## Loading -/

lemma parse_guardOpening (rest : Text) : ∃ f, Json.parse (guardOpening ++ rest) = .error f := by
  have hread (steps : Nat) (t : Text) :
      Json.readValue (steps + 1) (')' :: t) = .error (.misfit .value (')' :: t)) := by
    rw [Json.readValue_eq_readNumber (by decide) (by decide) (by decide) rfl]
    rfl
  have hall : Json.readAll (guardOpening ++ rest) =
      .error (.misfit .value (guardOpening ++ rest)) := by
    have hskip : Json.skipSpace (guardOpening ++ rest) = ')' :: ']' :: '\x7d' :: rest := rfl
    rw [Json.readAll, hskip, hread]
    rfl
  have hmark : ¬ (guardOpening ++ rest).head? = some '\uFEFF' := by
    change ¬ some ')' = some '\uFEFF'
    decide
  rw [Json.parse, if_neg hmark, hall]
  exact ⟨_, rfl⟩

/-- A text that has a value does not open with a guard. -/
lemma afterGuard_of_parse {t : Text} {v : Json} (h : Json.parse t = .ok v) :
    afterGuard t = .ok t := by
  have hguard : ¬ Text.startsWith guardOpening t = true := by
    intro hstart
    obtain ⟨rest, rfl⟩ := Text.startsWith_iff.1 hstart
    obtain ⟨f, hfault⟩ := parse_guardOpening rest
    rw [hfault] at h
    simp at h
  rw [afterGuard, if_neg hguard]

lemma readNames_list (names : List Text) : readNames (.list (names.map .text)) = .ok names := by
  have hshown : (names.map Json.text).map Json.shown = names := by
    rw [List.map_map]
    exact List.map_id names
  simp only [readNames, members?, hshown]

lemma rootOf_eq_none {fields : List (Text × Json)} (h : Lacks "sourceRoot" fields) :
    rootOf (.object fields) = none := by
  rcases h with h | h <;> simp only [rootOf, h]

lemma decodeRegular_of_hasMap {fields : List (Text × Json)} {sources names : List Text}
    {mappings : Text} (h : HasMap fields sources names mappings) :
    decodeRegular (.object fields) =
      decodeMappings (.items (sources.map .text)) names mappings := by
  have hsources : field "sources".toList (.object fields) = .ok (.list (sources.map .text)) := by
    simp only [field, h.sources]
  have hnames : field "names".toList (.object fields) = .ok (.list (names.map .text)) := by
    simp only [field, h.names]
  have hmappings : field "mappings".toList (.object fields) = .ok (.text mappings) := by
    simp only [field, h.mappings]
  simp only [decodeRegular, hsources, hnames, hmappings, rootOf_eq_none h.root, readSources,
    bind, Except.bind, readNames_list]

lemma sectionsOf?_eq_none {t : Text} {fields : List (Text × Json)}
    (hparse : Json.parse t = .ok (.object fields)) (h : Lacks "sections" fields) :
    sectionsOf? t = none := by
  rcases h with h | h <;> simp only [sectionsOf?, hparse, h]

/-- A text of a regular map is loaded as the table of the lines that its mappings encode. -/
theorem load_of_isMapText {sources names : List Text} {t : Text}
    {lines : List (List (Segment sources names))}
    (h : IsMapText t sources names (encode lines)) (path : Option Text) :
    load path t = .ok (.regular (tableOf lines)) := by
  obtain ⟨fields, hparse, hmap, hsections⟩ := h
  have hregular : readRegular t = .ok (tableOf lines) := by
    rw [readRegular, afterGuard_of_parse hparse]
    simp only [bind, Except.bind, hparse]
    rw [decodeRegular_of_hasMap hmap, decodeMappings_encode]
  rw [load, read, sectionsOf?_eq_none hparse hsections, hregular]
  rfl

end Retrace.SourceMap
