import Retrace.Journal.Session
import Retrace.Proofs.Json.RoundTrip
import Retrace.Proofs.Traversal

/-!
# Events as they are written

Under a name an event carries what its own fields hold, else what the context holds.  `Emits` says
what comes of an event under settings: it is refused for the name of a field, left out below the
level, at fault for what it carries (`Unwritable`), or written.  As JSON it then holds the fields of
the program and whatever else it shows (`Carries`): all that it carries, but for the few names that
ask for something.  The main statement is `Session.emits_emit`.
-/

namespace Retrace.Journal

variable {e : Event} {carried : Text → Option Json} {fields : Fields} {key text : Text} {v : Json}

/-! ## What an event shows -/

/-- The fields that the program gives an event, whatever it carries. -/
def programFields (e : Event) (text : Text) : Fields := [
  ("event".toList, .text text), ("service".toList, .text service),
  ("version".toList, .text version), ("logger".toList, .text e.logger),
  ("level".toList, .text e.level.tag)]

/-- The names of the fields that the program gives. -/
def programNames : List Text :=
  ["event".toList, "service".toList, "version".toList, "logger".toList, "level".toList]

/-- What an event carries under a name is left out: it asks for something, or what it asks for would
take its place. -/
def LeftOut (e : Event) (carried : Text → Option Json) (key : Text) : Prop :=
  key ∈ [momentField, callsRequest, exceptionRequest] ∨
    (key = argumentsField ∧ ¬ (carried argumentsField = some .null ∧ e.arguments = [])) ∨
    (key = callsField ∧ ∃ v, carried callsRequest = some v ∧ v.isSomething = true)

/-- An event shows what it carries, where the program has nothing of its own. -/
structure Shows (e : Event) (carried : Text → Option Json) (key : Text) (v : Json) : Prop where
  name_not_mem : key ∉ programNames
  not_leftOut : ¬ LeftOut e carried key
  carried_eq : carried key = some v

/-- Fields are those of an event with a text: of the program and of the event, and no others. -/
structure Carries (e : Event) (text : Text) (carried : Text → Option Json) (fields : Fields) :
    Prop where
  nodup : (fields.map (·.1)).Nodup
  mem_iff : ∀ key v, (key, v) ∈ fields ↔ (key, v) ∈ programFields e text ∨ Shows e carried key v

/-! ## What comes of an event -/

/-- An event has a field with a name that no field may have. -/
def Event.Misnamed (e : Event) : Prop := ∃ field ∈ e.fields, field.1 ∈ reservedNames

/-- No number that an event shows has too many digits. -/
def Short (e : Event) (carried : Text → Option Json) : Prop :=
  ∀ key v, Shows e carried key v → v.longNumber? = none

/-- What an event shows that is to be shown as it is, is text. -/
def Textual (e : Event) (carried : Text → Option Json) : Prop :=
  ∀ key ∈ [callsField, exceptionField], ∀ v, Shows e carried key v → v = .null ∨ ∃ t, v = .text t

/-- An event can be written in a format with a text. -/
structure Writable (format : Format) (e : Event) (carried : Text → Option Json) (text : Text) :
    Prop where
  /-- There is no record of another journal. -/
  record_null : ∀ v, carried recordField = some v → v = .null
  /-- The arguments fit the text. -/
  filled_eq : filled e (carried argumentsField) = .ok text
  short : Short e carried
  textual : format = .console → Textual e carried

/-- What comes of an event under settings. -/
inductive Emits (settings : Settings) (e : Event) (carried : Text → Option Json) :
    Except EventFault Written → Prop
  /-- The names of the fields are looked at first, whatever the level. -/
  | misnamed (h : e.Misnamed) : Emits settings e carried (.error .fieldName)
  | below (h : ¬ e.Misnamed) (hlevel : e.level.severity < settings.level.severity) :
      Emits settings e carried (.ok .nothing)
  | unwritable (h : ¬ e.Misnamed) (hlevel : settings.level.severity ≤ e.level.severity)
      (hno : ∀ text, ¬ Writable settings.format e carried text) (f : EventFault) :
      Emits settings e carried (.error f)
  | object (h : ¬ e.Misnamed) (hlevel : settings.level.severity ≤ e.level.severity)
      (hformat : settings.format = .json) {text : Text} {fields : Fields}
      (hwritable : Writable settings.format e carried text)
      (hcarries : Carries e text carried fields) : Emits settings e carried (.ok (.object fields))
  | plain (h : ¬ e.Misnamed) (hlevel : settings.level.severity ≤ e.level.severity)
      (hformat : settings.format = .console) {text : Text}
      (hwritable : Writable settings.format e carried text) (t : Text) :
      Emits settings e carried (.ok (.plain t))

/-! ## Fields that are carried -/

/-- The fields with which every event is stamped. -/
def stampFields : Fields :=
  [("service".toList, .text service), ("version".toList, .text version)]

namespace Session

variable {s : Session}

/-- What an event carries under a name in a session: what its own fields hold, else the context. -/
def carried? (s : Session) (e : Event) (key : Text) : Option Json :=
  (Json.field? key e.fields.reverse).or (Json.field? key s.context)

lemma carried_eq (s : Session) (e : Event) :
    s.carried e = Json.setFields stampFields (Json.setFields e.fields s.context) := rfl

lemma field?_setFields_context (s : Session) (e : Event) (key : Text) :
    Json.field? key (Json.setFields e.fields s.context) = s.carried? e key :=
  Json.field?_setFields e.fields

lemma nodup_carried (hnodup : (s.context.map (·.1)).Nodup) (e : Event) :
    ((s.carried e).map (·.1)).Nodup :=
  Json.nodup_setFields _ (Json.nodup_setFields _ hnodup)

lemma mem_carried_iff (hnodup : (s.context.map (·.1)).Nodup) : (key, v) ∈ s.carried e ↔
    (key, v) ∈ stampFields ∨ key ∉ stampFields.map (·.1) ∧ s.carried? e key = some v := by
  have hunder := Json.nodup_setFields e.fields hnodup
  rw [carried_eq, Json.mem_setFields_iff (by decide) hunder, ← Json.field?_eq_some_iff hunder,
    field?_setFields_context]

/-- The fields with which an event is stamped have names of the program. -/
lemma field?_carried (hkey : key ∉ programNames) (s : Session) (e : Event) :
    Json.field? key (s.carried e) = s.carried? e key := by
  have hstamp : Json.field? key stampFields.reverse = none := by
    have hnames : ∀ name ∈ stampFields.reverse.map (·.1), name ∈ programNames := by decide
    exact Json.field?_eq_none_iff.2 fun hmem => hkey (hnames key hmem)
  rw [carried_eq, Json.field?_setFields, hstamp, Option.none_or, field?_setFields_context]

end Session

/-! ## Fields that are shown -/

/-- The names of the program ask for nothing. -/
lemma not_leftOut_of_mem (hkey : key ∈ programNames) : ¬ LeftOut e carried key := by
  have hapart : ∀ name ∈ programNames, name ∉ [momentField, callsRequest, exceptionRequest] ∧
      name ≠ argumentsField ∧ name ≠ callsField := by decide
  obtain ⟨hmoment, harguments, hcalls⟩ := hapart key hkey
  rintro (h | ⟨h, -⟩ | ⟨h, -⟩)
  · exact hmoment h
  · exact harguments h
  · exact hcalls h

lemma isNull_iff : v.isNull = true ↔ v = .null := by
  cases v <;> simp [Json.isNull]

lemma isRequest_iff : isRequest e key v = true ↔ key = callsRequest ∨ key = exceptionRequest ∨
    key = argumentsField ∧ ¬ (v = .null ∧ e.arguments = []) := by
  rw [← isNull_iff, not_and_or]
  simp [isRequest, or_assoc]

variable {s : Session}

/-- What asks for something is taken from the fields that an event carries. -/
lemma mem_withoutRequests_iff (hnodup : (s.context.map (·.1)).Nodup) :
    (key, v) ∈ withoutRequests e (s.carried e) ↔
      (key, v) ∈ s.carried e ∧ ¬ LeftOut e (s.carried? e) key := by
  rw [withoutRequests, List.mem_filter]
  refine and_congr_right fun hmem => ?_
  have hcalls : Json.field? callsRequest (s.carried e) = s.carried? e callsRequest :=
    Session.field?_carried (by decide) s e
  have harguments : key = argumentsField → s.carried? e argumentsField = some v := by
    rintro rfl
    rw [← Session.field?_carried (by decide) s e]
    exact (Json.field?_eq_some_iff (Session.nodup_carried hnodup e)).2 hmem
  have hrequest : isRequest e key v = true ↔ key ∈ [callsRequest, exceptionRequest] ∨
      key = argumentsField ∧
        ¬ (s.carried? e argumentsField = some .null ∧ e.arguments = []) := by
    rw [isRequest_iff, List.mem_pair, or_assoc]
    refine or_congr_right (or_congr_right (and_congr_right fun hkey => ?_))
    rw [harguments hkey, Option.some_inj]
  simp only [hcalls, Bool.and_eq_true, Bool.not_eq_true', decide_eq_true_eq, ← Bool.not_eq_true,
    Option.any_eq_true, LeftOut]
  rw [hrequest, List.mem_cons (b := momentField)]
  constructor
  · rintro ⟨⟨hno, hnoCalls⟩, hmoment⟩ ((h | h) | h | ⟨hname, hasks⟩)
    · exact hmoment h
    · exact hno (Or.inl h)
    · exact hno (Or.inr h)
    · exact hnoCalls ⟨hasks, hname⟩
  · intro h
    refine ⟨⟨fun hasks => h (hasks.imp Or.inr Or.inl), fun ⟨hasks, hname⟩ => ?_⟩, fun hmoment => ?_⟩
    · exact h (Or.inr (Or.inr ⟨hname, hasks⟩))
    · exact h (Or.inl (Or.inl hmoment))

/-- Where the program has nothing of its own, the fields that are left are those that are shown. -/
lemma mem_withoutRequests_iff_shows (hnodup : (s.context.map (·.1)).Nodup)
    (hkey : key ∉ programNames) :
    (key, v) ∈ withoutRequests e (s.carried e) ↔ Shows e (s.carried? e) key v := by
  rw [mem_withoutRequests_iff hnodup, ← Json.field?_eq_some_iff (Session.nodup_carried hnodup e),
    Session.field?_carried hkey]
  exact ⟨fun ⟨hcarried, hleft⟩ => ⟨hkey, hleft, hcarried⟩, fun h => ⟨h.carried_eq, h.not_leftOut⟩⟩

lemma nodup_withoutRequests (hnodup : (s.context.map (·.1)).Nodup) (e : Event) :
    ((withoutRequests e (s.carried e)).map (·.1)).Nodup :=
  (Session.nodup_carried hnodup e).sublist (List.filter_sublist.map _)

/-- The fields that an event is given when it is written, beside those it is stamped with. -/
def ownFields (e : Event) (text : Text) : Fields := [
  ("event".toList, .text text), ("logger".toList, .text e.logger),
  ("level".toList, .text e.level.tag)]

/-- The names of these fields. -/
def ownNames : List Text := ["event".toList, "logger".toList, "level".toList]

lemma names_ownFields (e : Event) (text : Text) : (ownFields e text).map (·.1) = ownNames := rfl

lemma mem_programFields_iff :
    (key, v) ∈ programFields e text ↔ (key, v) ∈ ownFields e text ∨ (key, v) ∈ stampFields := by
  simp only [programFields, ownFields, stampFields, List.mem_cons, List.not_mem_nil, or_false]
  constructor
  · rintro (h | h | h | h | h) <;> simp only [h, true_or, or_true]
  · rintro ((h | h | h) | h | h) <;> simp only [h, true_or, or_true]

/-- **What an event carries as JSON.** -/
lemma carries_eventFields (hnodup : (s.context.map (·.1)).Nodup) (e : Event) (text : Text) :
    Carries e text (s.carried? e)
      (Session.eventFields e text (withoutRequests e (s.carried e))) := by
  have hunder := nodup_withoutRequests hnodup e
  have hnames : ((ownFields e text).map (·.1)).Nodup := by
    rw [names_ownFields]
    decide
  refine ⟨Json.nodup_setFields _ hunder, fun key v => ?_⟩
  have hmem : (key, v) ∈ Session.eventFields e text (withoutRequests e (s.carried e)) ↔
      (key, v) ∈ ownFields e text ∨
        key ∉ ownNames ∧ (key, v) ∈ withoutRequests e (s.carried e) :=
    Json.mem_setFields_iff hnames hunder
  rw [hmem, mem_programFields_iff, or_assoc]
  refine or_congr_right ⟨?_, ?_⟩
  · rintro ⟨hown, hleft⟩
    obtain ⟨hcarried, hnot⟩ := (mem_withoutRequests_iff hnodup).1 hleft
    refine ((Session.mem_carried_iff hnodup).1 hcarried).imp_right fun ⟨hstamp, hvalue⟩ => ?_
    have hsplit : ∀ name ∈ programNames, name ∈ ownNames ∨ name ∈ stampFields.map (·.1) := by
      decide
    exact ⟨fun hname => (hsplit key hname).elim hown hstamp, hnot, hvalue⟩
  · rintro (hstamp | hshows)
    · have hapart : ∀ field ∈ stampFields, field.1 ∉ ownNames ∧ field.1 ∈ programNames := by
        simp [stampFields]
        decide
      obtain ⟨hown, hname⟩ := hapart (key, v) hstamp
      have hcarried := (Session.mem_carried_iff hnodup (e := e)).2 (Or.inl hstamp)
      exact ⟨hown, (mem_withoutRequests_iff hnodup).2 ⟨hcarried, not_leftOut_of_mem hname⟩⟩
    · have hnames : ∀ name ∈ ownNames, name ∈ programNames := by decide
      exact ⟨fun hname => hshows.name_not_mem (hnames key hname),
        (mem_withoutRequests_iff_shows hnodup hshows.name_not_mem).2 hshows⟩

/-! ## Faults -/

/-- The fields of the program are texts. -/
lemma longNumber?_of_mem_programFields (h : (key, v) ∈ programFields e text) :
    v.longNumber? = none := by
  have hall : ∀ field ∈ programFields e text, field.2.longNumber? = none := by
    simp [programFields]
  exact hall (key, v) h

lemma exists_consoleBlock_iff : (∃ t, consoleBlock key fields = .ok t) ↔
    ∀ v, Json.field? key fields = some v → v = .null ∨ ∃ t, v = .text t := by
  rw [consoleBlock]
  cases Json.field? key fields with
  | none => simp
  | some v => cases v <;> simp

/-- A console shows an event if it has no number that is too long among the other fields, and texts
in those that it shows as they are. -/
lemma exists_consoleText_iff : (∃ t, consoleText e text fields = .ok t) ↔
    (¬ ∃ key v, (key, v) ∈ fields ∧ key ∉ placedNames ∧ v.longNumber?.isSome = true) ∧
    ∀ key ∈ [callsField, exceptionField], ∃ t, consoleBlock key fields = .ok t := by
  have hlong : (Json.longField? (fields.filter fun field => !placedNames.contains field.1)).isSome =
      true ↔ ∃ key v, (key, v) ∈ fields ∧ key ∉ placedNames ∧ v.longNumber?.isSome = true := by
    rw [Json.isSome_longField?_iff]
    simp only [List.mem_filter, Bool.not_eq_true', List.contains_eq_mem, decide_eq_false_iff_not,
      and_assoc]
  rw [consoleText, List.forall_mem_cons, List.forall_mem_singleton]
  split
  · next h =>
    refine iff_of_false ?_ fun hshort => hshort.1 (hlong.1 h)
    rintro ⟨t, ht⟩
    cases ht
  · next h =>
    rw [and_iff_right fun hex => h (hlong.2 hex)]
    constructor
    · rintro ⟨t, ht⟩
      obtain ⟨calls, hcalls, hrest⟩ := bind_eq_ok_iff.1 ht
      obtain ⟨exception, hexception, -⟩ := bind_eq_ok_iff.1 hrest
      exact ⟨⟨calls, hcalls⟩, exception, hexception⟩
    · rintro ⟨⟨calls, hcalls⟩, exception, hexception⟩
      exact ⟨_, bind_eq_ok_iff.2 ⟨calls, hcalls, bind_eq_ok_iff.2 ⟨exception, hexception, rfl⟩⟩⟩

lemma exists_eventJson_iff (hnodup : (s.context.map (·.1)).Nodup) (e : Event) (text : Text) :
    (∃ w, Session.inFormat .json e text (withoutRequests e (s.carried e)) = .ok w) ↔
      Short e (s.carried? e) := by
  have hcarries := carries_eventFields hnodup e text
  have hlong : (Json.longField? (Session.eventFields e text
      (withoutRequests e (s.carried e)))).isSome = true ↔
        ∃ key v, Shows e (s.carried? e) key v ∧ v.longNumber?.isSome = true := by
    rw [Json.isSome_longField?_iff]
    refine exists_congr fun key => exists_congr fun v => and_congr_left fun hv => ?_
    rw [hcarries.mem_iff]
    refine or_iff_right fun hprogram => ?_
    rw [longNumber?_of_mem_programFields hprogram] at hv
    cases hv
  have hshort : ¬ (Json.longField? (Session.eventFields e text
      (withoutRequests e (s.carried e)))).isSome = true ↔ Short e (s.carried? e) := by
    rw [hlong]
    simp [Short]
  rw [← hshort]
  simp only [Session.inFormat]
  split
  · next h =>
    refine iff_of_false ?_ fun hno => hno h
    rintro ⟨w, hw⟩
    cases hw
  · next h => exact iff_of_true ⟨_, rfl⟩ h

/-- What is shown as it is, can be shown so if it is text. -/
lemma exists_consoleBlock_iff_shows (hnodup : (s.context.map (·.1)).Nodup)
    (hkey : key ∈ [callsField, exceptionField]) :
    (∃ t, consoleBlock key (withoutRequests e (s.carried e)) = .ok t) ↔
      ∀ v, Shows e (s.carried? e) key v → v = .null ∨ ∃ t, v = .text t := by
  have hplaced : ∀ key ∈ [callsField, exceptionField], key ∉ programNames := by decide
  rw [exists_consoleBlock_iff]
  refine forall_congr' fun v => imp_congr_left ?_
  rw [Json.field?_eq_some_iff (nodup_withoutRequests hnodup e),
    mem_withoutRequests_iff_shows hnodup (hplaced key hkey)]

/-- Of the names of the program, a console shows those of the stamps among the other fields, and
they are texts. -/
lemma longNumber?_of_stamped (hnodup : (s.context.map (·.1)).Nodup)
    (hmem : (key, v) ∈ withoutRequests e (s.carried e)) (hname : key ∈ programNames)
    (hkey : key ∉ placedNames) : v.longNumber? = none := by
  have hstamped : ∀ name ∈ programNames, name ∉ placedNames → name ∈ stampFields.map (·.1) := by
    decide
  have hcarried := ((mem_withoutRequests_iff hnodup).1 hmem).1
  have hstamp := ((Session.mem_carried_iff hnodup).1 hcarried).resolve_right fun hrest =>
    hrest.1 (hstamped key hname hkey)
  have hprogram : (key, v) ∈ programFields e [] := mem_programFields_iff.2 (Or.inr hstamp)
  exact longNumber?_of_mem_programFields hprogram

/-- If what is shown as it is, is text, the other fields have no number that is too long exactly if
none that is shown is. -/
lemma short_iff_others (hnodup : (s.context.map (·.1)).Nodup)
    (htextual : Textual e (s.carried? e)) :
    Short e (s.carried? e) ↔ ¬ ∃ key v, (key, v) ∈ withoutRequests e (s.carried e) ∧
      key ∉ placedNames ∧ v.longNumber?.isSome = true := by
  constructor
  · rintro hshort ⟨key, v, hmem, hkey, hv⟩
    by_cases hname : key ∈ programNames
    · rw [longNumber?_of_stamped hnodup hmem hname hkey] at hv
      cases hv
    · rw [hshort key v ((mem_withoutRequests_iff_shows hnodup hname).1 hmem)] at hv
      cases hv
  · intro hothers key v hshows
    by_contra hv
    have hv : v.longNumber?.isSome = true := Option.isSome_iff_ne_none.2 hv
    by_cases hkey : key ∈ [callsField, exceptionField]
    · rcases htextual key hkey v hshows with rfl | ⟨t, rfl⟩ <;> simp [Json.longNumber?] at hv
    · have hmem := (mem_withoutRequests_iff_shows hnodup hshows.name_not_mem).2 hshows
      have hplaced : ∀ name ∈ placedNames,
          name ∈ [callsField, exceptionField] ∨ name ∈ programNames := by decide
      exact hothers ⟨key, v, hmem, fun hname =>
        (hplaced key hname).elim hkey hshows.name_not_mem, hv⟩

lemma exists_eventLine_iff (hnodup : (s.context.map (·.1)).Nodup) (e : Event) (text : Text) :
    (∃ w, Session.inFormat .console e text (withoutRequests e (s.carried e)) = .ok w) ↔
      Short e (s.carried? e) ∧ Textual e (s.carried? e) := by
  have hline : (∃ w, Session.inFormat .console e text (withoutRequests e (s.carried e)) = .ok w) ↔
      ∃ t, consoleText e text (withoutRequests e (s.carried e)) = .ok t := by
    simp only [Session.inFormat, map_eq_ok_iff]
    exact ⟨fun ⟨_, t, ht, _⟩ => ⟨t, ht⟩, fun ⟨t, ht⟩ => ⟨_, t, ht, rfl⟩⟩
  have hblocks : (∀ key ∈ [callsField, exceptionField],
      ∃ t, consoleBlock key (withoutRequests e (s.carried e)) = .ok t) ↔
        Textual e (s.carried? e) :=
    forall₂_congr fun key hkey => exists_consoleBlock_iff_shows hnodup hkey
  rw [hline, exists_consoleText_iff, hblocks]
  exact and_congr_left fun htextual => (short_iff_others hnodup htextual).symm

/-! ## Writing an event -/

namespace Session

lemma misnamed_iff : (e.fields.any fun (key, _) => reservedNames.contains key) = true ↔
    e.Misnamed := by
  simp [Event.Misnamed]

/-- An event whose text is filled is written unless its format cannot show it. -/
lemma emits_inFormat {settings : Settings} (hnodup : (s.context.map (·.1)).Nodup)
    (hname : ¬ e.Misnamed) (hlevel : settings.level.severity ≤ e.level.severity)
    (hrecord : ∀ v, s.carried? e recordField = some v → v = .null)
    (hfilled : filled e (s.carried? e argumentsField) = .ok text) :
    Emits settings e (s.carried? e)
      (inFormat settings.format e text (withoutRequests e (s.carried e))) := by
  cases hw : inFormat settings.format e text (withoutRequests e (s.carried e)) with
  | error f =>
    refine .unwritable hname hlevel (fun other hwritable => ?_) f
    have hshown : ∃ w,
        inFormat settings.format e text (withoutRequests e (s.carried e)) = .ok w := by
      cases hformat : settings.format with
      | json => exact (exists_eventJson_iff hnodup e text).2 hwritable.short
      | console =>
        exact (exists_eventLine_iff hnodup e text).2 ⟨hwritable.short, hwritable.textual hformat⟩
    obtain ⟨w, hshown⟩ := hshown
    cases hw.symm.trans hshown
  | ok w =>
    cases hformat : settings.format with
    | json =>
      rw [hformat] at hw
      have hshort := (exists_eventJson_iff hnodup e text).1 ⟨w, hw⟩
      have hobject : w = .object (eventFields e text (withoutRequests e (s.carried e))) := by
        simp only [inFormat] at hw
        split at hw
        · cases hw
        · exact (Except.ok.inj hw).symm
      rw [hobject]
      exact .object hname hlevel hformat ⟨hrecord, hfilled, hshort, by rw [hformat]; nofun⟩
        (carries_eventFields hnodup e text)
    | console =>
      rw [hformat] at hw
      obtain ⟨hshort, htextual⟩ := (exists_eventLine_iff hnodup e text).1 ⟨w, hw⟩
      obtain ⟨t, -, rfl⟩ := map_eq_ok_iff.1 hw
      exact .plain hname hlevel hformat ⟨hrecord, hfilled, hshort, fun _ => htextual⟩ t

/-- **What comes of an event.** -/
theorem emits_emit {settings : Settings} (hsettings : s.settings = some settings)
    (hnodup : (s.context.map (·.1)).Nodup) (e : Event) :
    Emits settings e (s.carried? e) (s.emit e) := by
  rw [emit]
  split
  · next h => exact .misnamed (misnamed_iff.1 h)
  · next h =>
    have hname : ¬ e.Misnamed := fun hmisnamed => h (misnamed_iff.2 hmisnamed)
    have hrecord : Json.field? recordField (s.carried e) = s.carried? e recordField :=
      field?_carried (by decide) s e
    have harguments : Json.field? argumentsField (s.carried e) = s.carried? e argumentsField :=
      field?_carried (by decide) s e
    simp only [hsettings, writes, hrecord, harguments]
    by_cases hlevel : settings.level.severity ≤ e.level.severity
    · rw [if_neg (by simpa using hlevel)]
      split
      · next hsome =>
        obtain ⟨v, hv, hnull⟩ := (Option.any_eq_true _ _).1 hsome
        refine .unwritable hname hlevel (fun text hwritable => ?_) _
        rw [hwritable.record_null v hv] at hnull
        cases hnull
      · next hnone =>
        have hnull : ∀ v, s.carried? e recordField = some v → v = .null := by
          intro v hv
          by_contra hne
          refine hnone ((Option.any_eq_true _ _).2 ⟨v, hv, ?_⟩)
          rw [Bool.not_eq_true', ← Bool.not_eq_true, isNull_iff]
          exact hne
        cases hfilled : filled e (s.carried? e argumentsField) with
        | error f =>
          refine .unwritable hname hlevel (fun text hwritable => ?_) _
          cases hfilled.symm.trans hwritable.filled_eq
        | ok text => exact emits_inFormat hnodup hname hlevel hnull hfilled
    · rw [if_pos (by simpa using hlevel)]
      exact .below hname (Nat.lt_of_not_le hlevel)

/-- Without settings an event is at fault if it could not be shown on a console without arguments
but its own. -/
lemma exists_emit_iff_of_unset (hsettings : s.settings = none)
    (hnodup : (s.context.map (·.1)).Nodup) :
    (∃ w, s.emit e = .ok w) ↔ ¬ e.Misnamed ∧ (∃ text, filled e none = .ok text) ∧
      Short e (s.carried? e) ∧ Textual e (s.carried? e) := by
  rw [emit]
  split
  · next h => exact iff_of_false nofun fun hno => hno.1 (misnamed_iff.1 h)
  · next h =>
    rw [and_iff_right fun hmisnamed => h (misnamed_iff.2 hmisnamed)]
    simp only [hsettings]
    constructor
    · rintro ⟨w, hw⟩
      obtain ⟨text, hfilled, hw⟩ := bind_eq_ok_iff.1 hw
      obtain ⟨t, ht, -⟩ := bind_eq_ok_iff.1 hw
      refine ⟨⟨text, mapError_eq_ok_iff.1 hfilled⟩, (exists_eventLine_iff hnodup e text).1 ?_⟩
      exact ⟨.plain t, map_eq_ok_iff.2 ⟨t, ht, rfl⟩⟩
    · rintro ⟨⟨text, hfilled⟩, hshown⟩
      obtain ⟨w, hw⟩ := (exists_eventLine_iff hnodup e text).2 hshown
      obtain ⟨t, ht, -⟩ := map_eq_ok_iff.1 hw
      exact ⟨.nothing, bind_eq_ok_iff.2 ⟨text, mapError_eq_ok_iff.2 hfilled,
        bind_eq_ok_iff.2 ⟨t, ht, rfl⟩⟩⟩

end Session

/-! ## Plain sessions -/

/-- The names of fields that can put a fault into any event. -/
def askingNames : List Text := [recordField, argumentsField, callsField, exceptionField]

namespace Session

/-- A session whose context asks for nothing, and holds nothing that cannot be written. -/
structure Bland (s : Session) : Prop where
  nodup : (s.context.map (·.1)).Nodup
  names : ∀ field ∈ s.context, field.1 ∉ askingNames
  short : ∀ field ∈ s.context, field.2.longNumber? = none

/-- A session leaves out what is of a level. -/
def Quiet (s : Session) (level : Level) : Prop :=
  ∃ settings, s.settings = some settings ∧ level.severity < settings.level.severity

lemma bland_empty : ({} : Session).Bland := ⟨List.nodup_nil, nofun, nofun⟩

/-- Under a name that asks for something, nothing is carried. -/
lemma Bland.carried?_eq_none (hs : s.Bland) (hasks : ∀ field ∈ e.fields, field.1 ∉ askingNames)
    (hkey : key ∈ askingNames) : s.carried? e key = none := by
  have hown : Json.field? key e.fields.reverse = none := by
    rw [Json.field?_eq_none_iff, List.map_reverse, List.mem_reverse, List.mem_map]
    rintro ⟨field, hfield, rfl⟩
    exact hasks field hfield hkey
  have hcontext : Json.field? key s.context = none := by
    rw [Json.field?_eq_none_iff, List.mem_map]
    rintro ⟨field, hfield, rfl⟩
    exact hs.names field hfield hkey
  rw [carried?, hown, hcontext]
  rfl

/-- **Events in a plain session.** One that asks for nothing is written or left out, unless it is
not left out for its level and has a number that is too long. -/
lemma Bland.exists_emit_iff (hs : s.Bland) (hname : ¬ e.Misnamed)
    (hasks : ∀ field ∈ e.fields, field.1 ∉ askingNames) (harguments : e.arguments = []) :
    (∃ w, s.emit e = .ok w) ↔ s.Quiet e.level ∨ Short e (s.carried? e) := by
  have hnone {key : Text} (hkey : key ∈ askingNames) : s.carried? e key = none :=
    hs.carried?_eq_none hasks hkey
  have hfilled : filled e none = .ok e.text := by rw [filled, harguments]
  have htextual : Textual e (s.carried? e) := by
    intro key hkey v hshows
    have hasking : ∀ key ∈ [callsField, exceptionField], key ∈ askingNames := by decide
    cases (hnone (hasking key hkey)).symm.trans hshows.carried_eq
  cases hsettings : s.settings with
  | none =>
    have hloud : ¬ s.Quiet e.level := by
      rintro ⟨settings, hsome, -⟩
      cases hsettings.symm.trans hsome
    rw [exists_emit_iff_of_unset hsettings hs.nodup, or_iff_right hloud]
    exact ⟨fun h => h.2.2.1, fun h => ⟨hname, ⟨e.text, hfilled⟩, h, htextual⟩⟩
  | some settings =>
    have hquiet : s.Quiet e.level ↔ e.level.severity < settings.level.severity := by
      constructor
      · rintro ⟨other, hother, hlevel⟩
        obtain rfl := Option.some.inj (hsettings.symm.trans hother)
        exact hlevel
      · exact fun hlevel => ⟨settings, hsettings, hlevel⟩
    have hwritable (hshort : Short e (s.carried? e)) :
        Writable settings.format e (s.carried? e) e.text := by
      have hrecord : s.carried? e recordField = none := hnone (by decide)
      refine ⟨fun v hv => ?_, ?_, hshort, fun _ => htextual⟩
      · cases hrecord.symm.trans hv
      · rw [hnone (by decide), hfilled]
    rw [hquiet]
    have hemits := emits_emit hsettings hs.nodup e
    constructor
    · rintro ⟨w, hw⟩
      rw [hw] at hemits
      cases hemits with
      | below _ hlevel => exact Or.inl hlevel
      | object _ _ _ hwritable _ => exact Or.inr hwritable.short
      | plain _ _ _ hwritable _ => exact Or.inr hwritable.short
    · intro h
      cases hemit : s.emit e with
      | ok w => exact ⟨w, rfl⟩
      | error f =>
        rw [hemit] at hemits
        cases hemits with
        | misnamed hmisnamed => exact absurd hmisnamed hname
        | unwritable _ hlevel hno _ =>
          rcases h with hbelow | hshort
          · omega
          · exact absurd (hwritable hshort) (hno e.text)

end Session

end Retrace.Journal
