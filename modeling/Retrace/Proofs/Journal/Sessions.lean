import Retrace.Proofs.Journal.Events

/-!
# Sessions of requests

What a session is after requests can be told from the requests alone (`Reflects`): its settings are
those of the last request that makes any (`Effective`), its context holds what was bound since the
context was last cleared (`boundValue?`), and a logger keeps the format of the settings at its first
use with any (`Keeps`).  All of it is shown of one step first, and then of a run by induction on its
requests.

`run_reflects` adds what is answered: an event comes to what `Emits` says of the settings that apply
to its logger (`Applies`) and of the values that the requests before it left, and a request that
fails changes no more of the session than that a logger has been used.  An event need not carry all
that was bound or passed, and need not be written in the format of the last settings
(`not_carried_not_reformatted`).
-/

namespace Retrace.Journal

variable {requests : List Request} {r : Request} {settings : Settings} {s : Session} {key : Text}
  {logger : Nat} {format : Format}

/-! ## What requests leave -/

/-- Names, in any case, stand for settings. -/
def Settings.IsNamed (settings : Settings) (level format : Text) : Prop :=
  Text.upper level = settings.level.name ∧ Text.lower format = settings.format.name

/-- A request makes settings: it has their names. -/
def Request.Makes (r : Request) (settings : Settings) : Prop :=
  ∃ level format, r = .configure level format ∧ settings.IsNamed level format

/-- The settings of the last request that makes any. -/
def Effective (requests : List Request) (settings : Settings) : Prop :=
  ∃ before r after, requests = before ++ r :: after ∧ r.Makes settings ∧
    ∀ q ∈ after, ∀ other, ¬ q.Makes other

/-- Whether a request takes all fields from the context. -/
def Request.isClear : Request → Bool
  | .clear => true
  | .configure _ _ | .bind _ | .emit _ _ => false

/-- The value that a request binds to a name: of its fields with the name the last one counts. -/
def Request.boundValue? (key : Text) : Request → Option Json
  | .bind fields => Json.field? key fields.reverse
  | .configure _ _ | .clear | .emit _ _ => none

/-- The value that was bound last to a name since the context was last cleared. -/
def boundValue? (requests : List Request) (key : Text) : Option Json :=
  (requests.reverse.takeWhile (!·.isClear)).findSome? (·.boundValue? key)

/-- A request after others uses a logger while the settings have a format. -/
def Uses (before : List Request) (r : Request) (logger : Nat) (format : Format) : Prop :=
  ∃ e settings, r = .emit logger e ∧ Effective before settings ∧ settings.format = format

/-- A logger has not been used with settings. -/
def Unused (requests : List Request) (logger : Nat) : Prop :=
  ∀ before r after, requests = before ++ r :: after → ∀ format, ¬ Uses before r logger format

/-- A logger keeps the format of the settings at its first use with any. -/
def Keeps (requests : List Request) (logger : Nat) (format : Format) : Prop :=
  ∃ before r after, requests = before ++ r :: after ∧ Uses before r logger format ∧
    Unused before logger

/-- A session is what requests have made of it. -/
structure Reflects (requests : List Request) (s : Session) : Prop where
  settings_iff : ∀ settings, s.settings = some settings ↔ Effective requests settings
  context_eq : ∀ key, Json.field? key s.context = boundValue? requests key
  nodup : (s.context.map (·.1)).Nodup
  kept_iff : ∀ logger format, s.kept.lookup logger = some format ↔ Keeps requests logger format

/-! ## Names of settings -/

lemma Level.ofName?_eq_some_iff {t : Text} {l : Level} : Level.ofName? t = some l ↔ t = l.name := by
  constructor
  · intro h
    have hname := List.find?_some (p := fun l : Level => l.name = t) h
    exact (of_decide_eq_true hname).symm
  · rintro rfl
    cases l <;> decide

lemma Format.ofName?_eq_some_iff {t : Text} {f : Format} :
    Format.ofName? t = some f ↔ t = f.name := by
  constructor
  · intro h
    have hname := List.find?_some (p := fun f : Format => f.name = t) h
    exact (of_decide_eq_true hname).symm
  · rintro rfl
    cases f <;> decide

/-- Settings are made of names, in any case, of a level and a format. -/
lemma Settings.ofNames_eq_ok_iff {level format : Text} :
    Settings.ofNames level format = .ok settings ↔ settings.IsNamed level format := by
  rw [IsNamed, ← Level.ofName?_eq_some_iff, ← Format.ofName?_eq_some_iff, ofNames]
  cases settings
  cases Level.ofName? (Text.upper level) <;> cases Format.ofName? (Text.lower format) <;> simp

/-! ## One request more -/

/-- The places in a list with one item more are its last one and those of the list. -/
lemma concat_eq_append_cons_iff {α : Type} {items before after : List α} {last item : α} :
    items ++ [last] = before ++ item :: after ↔
      (items = before ∧ last = item ∧ after = []) ∨
        ∃ later, after = later ++ [last] ∧ items = before ++ item :: later := by
  constructor
  · intro h
    rcases List.eq_nil_or_concat' after with rfl | ⟨later, other, rfl⟩
    · obtain ⟨hitems, hlast⟩ := List.append_inj' h rfl
      exact Or.inl ⟨hitems, List.singleton_inj.1 hlast, rfl⟩
    · have h : items ++ [last] = (before ++ item :: later) ++ [other] := by simpa using h
      obtain ⟨hitems, hlast⟩ := List.append_inj' h rfl
      exact Or.inr ⟨later, by rw [List.singleton_inj.1 hlast], hitems⟩
  · rintro (⟨rfl, rfl, rfl⟩ | ⟨later, rfl, rfl⟩)
    · rfl
    · simp

lemma effective_concat_iff : Effective (requests ++ [r]) settings ↔
    r.Makes settings ∨ (∀ other, ¬ r.Makes other) ∧ Effective requests settings := by
  constructor
  · rintro ⟨before, q, after, hsplit, hmakes, hafter⟩
    rcases concat_eq_append_cons_iff.1 hsplit with ⟨-, rfl, -⟩ | ⟨later, rfl, rfl⟩
    · exact Or.inl hmakes
    · refine Or.inr ⟨hafter r (by simp), before, q, later, rfl, hmakes, fun q hq => ?_⟩
      exact hafter q (by simp [hq])
  · rintro (hmakes | ⟨hno, before, q, after, rfl, hmakes, hafter⟩)
    · exact ⟨requests, r, [], rfl, hmakes, by simp⟩
    · refine ⟨before, q, after ++ [r], by simp, hmakes, fun q hq => ?_⟩
      rcases List.mem_append.1 hq with hq | hq
      · exact hafter q hq
      · obtain rfl := List.mem_singleton.1 hq
        exact hno

lemma unused_concat_iff : Unused (requests ++ [r]) logger ↔
    Unused requests logger ∧ ∀ format, ¬ Uses requests r logger format := by
  constructor
  · intro h
    refine ⟨fun before q after hsplit => ?_, h requests r [] rfl⟩
    exact h before q (after ++ [r]) (by simp [hsplit])
  · rintro ⟨hunused, hno⟩ before q after hsplit
    rcases concat_eq_append_cons_iff.1 hsplit with ⟨rfl, rfl, -⟩ | ⟨later, -, hsplit⟩
    · exact hno
    · exact hunused before q later hsplit

lemma keeps_concat_iff : Keeps (requests ++ [r]) logger format ↔
    Keeps requests logger format ∨ Unused requests logger ∧ Uses requests r logger format := by
  constructor
  · rintro ⟨before, q, after, hsplit, huses, hunused⟩
    rcases concat_eq_append_cons_iff.1 hsplit with ⟨rfl, rfl, -⟩ | ⟨later, -, hsplit⟩
    · exact Or.inr ⟨hunused, huses⟩
    · exact Or.inl ⟨before, q, later, hsplit, huses, hunused⟩
  · rintro (⟨before, q, after, rfl, huses, hunused⟩ | ⟨hunused, huses⟩)
    · exact ⟨before, q, after ++ [r], by simp, huses, hunused⟩
    · exact ⟨requests, r, [], rfl, huses, hunused⟩

lemma unused_nil : Unused [] logger := by
  rintro before r after h
  simp at h

/-- A logger has not been used with settings, or keeps a format. -/
lemma unused_or_exists_keeps (requests : List Request) (logger : Nat) :
    Unused requests logger ∨ ∃ format, Keeps requests logger format := by
  induction requests using List.reverseRecOn with
  | nil => exact Or.inl unused_nil
  | append_singleton requests r ih =>
    rcases ih with hunused | ⟨format, hkeeps⟩
    · by_cases hno : ∀ format, ¬ Uses requests r logger format
      · exact Or.inl (unused_concat_iff.2 ⟨hunused, hno⟩)
      · obtain ⟨format, huses⟩ := not_forall_not.1 hno
        exact Or.inr ⟨format, keeps_concat_iff.2 (Or.inr ⟨hunused, huses⟩)⟩
    · exact Or.inr ⟨format, keeps_concat_iff.2 (Or.inl hkeeps)⟩

lemma Keeps.not_unused (h : Keeps requests logger format) : ¬ Unused requests logger := by
  obtain ⟨before, r, after, hsplit, huses, -⟩ := h
  exact fun hunused => hunused before r after hsplit format huses

lemma boundValue?_concat (requests : List Request) (r : Request) (key : Text) :
    boundValue? (requests ++ [r]) key =
      if r.isClear then none else (r.boundValue? key).or (boundValue? requests key) := by
  rw [boundValue?, List.reverse_append, List.reverse_singleton, List.singleton_append,
    List.takeWhile_cons]
  cases r.isClear with
  | true => rfl
  | false =>
    simp only [Bool.not_false, if_true, List.findSome?_cons]
    rw [boundValue?]
    cases r.boundValue? key <;> rfl

namespace Request

@[simp] lemma makes_configure_iff {level format : Text} :
    (configure level format).Makes settings ↔ settings.IsNamed level format := by
  simp [Makes]

@[simp] lemma not_makes_bind (fields : Fields) : ¬ (bind fields).Makes settings := by
  simp [Makes]

@[simp] lemma not_makes_clear : ¬ clear.Makes settings := by
  simp [Makes]

@[simp] lemma not_makes_emit (logger : Nat) (e : Event) : ¬ (emit logger e).Makes settings := by
  simp [Makes]

end Request

namespace Session

lemma settings_use (s : Session) (logger : Nat) : (s.use logger).settings = s.settings := by
  unfold use
  split <;> rfl

lemma context_use (s : Session) (logger : Nat) : (s.use logger).context = s.context := by
  unfold use
  split <;> rfl

/-- What loggers keep after one has been used. -/
lemma lookup_kept_use_iff (s : Session) (used logger : Nat) (format : Format) :
    (s.use used).kept.lookup logger = some format ↔ s.kept.lookup logger = some format ∨
      s.kept.lookup logger = none ∧ logger = used ∧
        ∃ settings, s.settings = some settings ∧ settings.format = format := by
  unfold use
  split
  · next settings hsettings hkept =>
    rw [List.lookup_cons]
    by_cases hsame : logger = used
    · subst hsame
      simp [hkept, hsettings]
    · have hne : (logger == used) = false := by simpa using hsame
      simp [hne, hsame]
  · next hno =>
    refine (or_iff_left ?_).symm
    rintro ⟨hkept, rfl, settings, hsettings, -⟩
    exact hno settings hsettings hkept

/-- Names that are refused leave the session as it is. -/
lemma step_configure (s : Session) (level format : Text) :
    (∃ settings, settings.IsNamed level format ∧
      s.step (.configure level format) = ({ s with settings := some settings }, .configured)) ∨
    ((∀ settings : Settings, ¬ settings.IsNamed level format) ∧
      ∃ f, s.step (.configure level format) = (s, .refused f)) := by
  rw [step, configure]
  cases h : Settings.ofNames level format with
  | ok settings => exact Or.inl ⟨settings, Settings.ofNames_eq_ok_iff.1 h, rfl⟩
  | error f =>
    refine Or.inr ⟨fun settings hnamed => ?_, f, rfl⟩
    rw [Settings.ofNames_eq_ok_iff.2 hnamed] at h
    cases h

/-- The settings after a request are those that it makes, else those before it. -/
lemma settings_step_iff (s : Session) (r : Request) (settings : Settings) :
    (s.step r).1.settings = some settings ↔
      r.Makes settings ∨ (∀ other, ¬ r.Makes other) ∧ s.settings = some settings := by
  cases r with
  | configure level format =>
    rcases s.step_configure level format with ⟨made, hnamed, hstep⟩ | ⟨hno, f, hstep⟩
    · have hmade : made = settings ↔ settings.IsNamed level format := by
        rw [← Settings.ofNames_eq_ok_iff, Settings.ofNames_eq_ok_iff.2 hnamed, Except.ok.injEq]
      simp only [hstep, Option.some_inj, hmade, Request.makes_configure_iff]
      exact (or_iff_left fun hother => hother.1 made hnamed).symm
    · simp [hstep, hno]
  | bind fields => simp [step, bind]
  | clear => simp [step, clear]
  | emit logger e => simp [step, settings_use]

/-- What the context holds after a request is what the request binds, else what it held before,
unless the request takes it away. -/
lemma field?_context_step (s : Session) (r : Request) (key : Text) :
    Json.field? key (s.step r).1.context =
      if r.isClear then none else (r.boundValue? key).or (Json.field? key s.context) := by
  cases r with
  | configure level format =>
    rcases s.step_configure level format with ⟨made, -, hstep⟩ | ⟨-, f, hstep⟩
    · rw [hstep]
      rfl
    · rw [hstep]
      rfl
  | bind fields => exact Json.field?_setFields fields
  | clear => rfl
  | emit logger e => exact congrArg (Json.field? key) (s.context_use logger)

lemma nodup_context_step (h : (s.context.map (·.1)).Nodup) (r : Request) :
    ((s.step r).1.context.map (·.1)).Nodup := by
  cases r with
  | configure level format =>
    rcases s.step_configure level format with ⟨made, -, hstep⟩ | ⟨-, f, hstep⟩
    · rwa [hstep]
    · rwa [hstep]
  | bind fields => exact Json.nodup_setFields fields h
  | clear => exact List.nodup_nil
  | emit logger e => rwa [step, context_use]

/-- A logger keeps after a request what it kept before, else the format that the request uses it
in. -/
lemma lookup_kept_step_iff (s : Session) (r : Request) (logger : Nat) (format : Format) :
    (s.step r).1.kept.lookup logger = some format ↔ s.kept.lookup logger = some format ∨
      s.kept.lookup logger = none ∧ ∃ e settings, r = .emit logger e ∧
        s.settings = some settings ∧ settings.format = format := by
  cases r with
  | configure level other =>
    rcases s.step_configure level other with ⟨made, -, hstep⟩ | ⟨-, f, hstep⟩ <;> simp [hstep]
  | bind fields => simp [step, bind]
  | clear => simp [step, clear]
  | emit used e =>
    rw [step, lookup_kept_use_iff]
    refine or_congr_right (and_congr_right fun _ => ?_)
    simp only [Request.emit.injEq, and_assoc, exists_and_left, exists_eq_left']
    rw [eq_comm]

end Session

lemma Reflects.lookup_kept_eq_none_iff (h : Reflects requests s) :
    s.kept.lookup logger = none ↔ Unused requests logger := by
  rw [Option.eq_none_iff_forall_ne_some]
  simp only [ne_eq, h.kept_iff]
  constructor
  · intro hno
    exact (unused_or_exists_keeps requests logger).resolve_right (not_exists.2 hno)
  · exact fun hunused format hkeeps => hkeeps.not_unused hunused

lemma Reflects.step (h : Reflects requests s) (r : Request) :
    Reflects (requests ++ [r]) (s.step r).1 where
  settings_iff settings := by
    rw [Session.settings_step_iff, effective_concat_iff, h.settings_iff]
  context_eq key := by
    rw [Session.field?_context_step, boundValue?_concat, h.context_eq]
  nodup := Session.nodup_context_step h.nodup r
  kept_iff logger format := by
    rw [Session.lookup_kept_step_iff, keeps_concat_iff, h.kept_iff, h.lookup_kept_eq_none_iff]
    simp only [h.settings_iff, Uses]

/-! ## Runs -/

namespace Session

lemma run_cons (s : Session) (r : Request) (requests : List Request) :
    s.run (r :: requests) =
      (((s.step r).1.run requests).1, (s.step r).2 :: ((s.step r).1.run requests).2) := rfl

lemma run_append (s : Session) (before after : List Request) :
    s.run (before ++ after) =
      (((s.run before).1.run after).1, (s.run before).2 ++ ((s.run before).1.run after).2) := by
  induction before generalizing s with
  | nil => rfl
  | cons r before ih =>
    rw [List.cons_append, run_cons, run_cons, ih, List.cons_append]

lemma run_concat (s : Session) (requests : List Request) (r : Request) :
    (s.run (requests ++ [r])).1 = ((s.run requests).1.step r).1 := by
  rw [run_append]
  rfl

lemma length_run (s : Session) (requests : List Request) :
    (s.run requests).2.length = requests.length := by
  induction requests generalizing s with
  | nil => rfl
  | cons r requests ih => exact congrArg (· + 1) (ih _)

/-- A request is answered in the session that the requests before it have left. -/
lemma getElem?_run (s : Session) (before : List Request) (r : Request) (after : List Request) :
    (s.run (before ++ r :: after)).2[before.length]? = some ((s.run before).1.step r).2 := by
  rw [run_append, List.getElem?_append_right (length_run s before).le, length_run, Nat.sub_self]
  rfl

end Session

lemma not_effective_nil : ¬ Effective [] settings := by
  rintro ⟨before, r, after, h, -⟩
  simp at h

lemma not_keeps_nil : ¬ Keeps [] logger format := fun h => h.not_unused unused_nil

/-- A session reflects the requests that it has been asked, from the first on. -/
lemma reflects_run (requests : List Request) : Reflects requests (Session.run {} requests).1 := by
  induction requests using List.reverseRecOn with
  | nil =>
    exact ⟨fun settings => iff_of_false nofun not_effective_nil, fun key => rfl, List.nodup_nil,
      fun logger format => iff_of_false nofun not_keeps_nil⟩
  | append_singleton requests r ih =>
    rw [Session.run_concat]
    exact ih.step r

/-! ## Answers -/

/-- What an event carries under a name after requests: what its own fields hold, else what they have
left in the context. -/
def carriedValue? (requests : List Request) (e : Event) (key : Text) : Option Json :=
  (Json.field? key e.fields.reverse).or (boundValue? requests key)

/-- The settings that apply to what is written through a logger after requests: those that are
effective, but for the format if the logger keeps one. -/
inductive Applies (requests : List Request) (logger : Nat) : Settings → Prop
  | unused {settings : Settings} (h : Effective requests settings)
      (hunused : Unused requests logger) : Applies requests logger settings
  | kept {level : Level} {last format : Format} (h : Effective requests ⟨level, last⟩)
      (hkept : Keeps requests logger format) : Applies requests logger ⟨level, format⟩

/-- The answer to a request after others. -/
inductive Answers (before : List Request) : Request → Reply → Prop
  | configured {level format : Text} {settings : Settings} (h : settings.IsNamed level format) :
      Answers before (.configure level format) .configured
  | refused {level format : Text} (h : ∀ settings : Settings, ¬ settings.IsNamed level format)
      (f : SettingsFault) : Answers before (.configure level format) (.refused f)
  | bound {fields context : Fields}
      (h : ∀ key, Json.field? key context = boundValue? (before ++ [.bind fields]) key) :
      Answers before (.bind fields) (.context context)
  | cleared : Answers before .clear (.context [])
  | event {logger : Nat} {settings : Settings} {e : Event} {r : Except EventFault Written}
      (hsettings : Applies before logger settings)
      (h : Emits settings e (carriedValue? before e) r) :
      Answers before (.emit logger e) (.event r)

/-- A reply tells a fault. -/
def Reply.IsFault : Reply → Prop
  | .refused _ | .event (.error _) => True
  | .configured | .context _ | .event (.ok _) => False

/-- Requests begin with one that makes settings. -/
def Opened (requests : List Request) : Prop :=
  ∃ r later settings, requests = r :: later ∧ r.Makes settings

lemma Opened.of_append {before after : List Request} (h : Opened (before ++ after))
    (hbefore : before ≠ []) : Opened before := by
  obtain ⟨first, before, rfl⟩ := List.exists_cons_of_ne_nil hbefore
  obtain ⟨r, later, settings, hsplit, hmakes⟩ := h
  obtain ⟨rfl, -⟩ := List.cons.inj hsplit
  exact ⟨first, before, settings, rfl, hmakes⟩

lemma Opened.exists_effective (h : Opened requests) : ∃ settings, Effective requests settings := by
  obtain ⟨first, later, settings, rfl, hmakes⟩ := h
  induction later using List.reverseRecOn with
  | nil => exact ⟨settings, [], first, [], rfl, hmakes, by simp⟩
  | append_singleton later r ih =>
    obtain ⟨settings, heffective⟩ := ih
    rw [← List.cons_append]
    by_cases hmade : ∃ other, r.Makes other
    · obtain ⟨other, hother⟩ := hmade
      exact ⟨other, effective_concat_iff.2 (Or.inl hother)⟩
    · exact ⟨settings, effective_concat_iff.2 (Or.inr ⟨not_exists.1 hmade, heffective⟩)⟩

lemma Reflects.carried?_eq (h : Reflects requests s) (e : Event) :
    s.carried? e = carriedValue? requests e := by
  funext key
  rw [Session.carried?, h.context_eq, carriedValue?]

/-- A logger finds the settings that apply to it. -/
lemma Reflects.exists_applies (h : Reflects requests s) (heffective : Effective requests settings)
    (logger : Nat) :
    ∃ own, (s.through logger).settings = some own ∧ Applies requests logger own := by
  rw [Session.through, (h.settings_iff settings).2 heffective, Option.map_some]
  cases hkept : s.kept.lookup logger with
  | none => exact ⟨_, rfl, .unused heffective (h.lookup_kept_eq_none_iff.1 hkept)⟩
  | some format => exact ⟨_, rfl, .kept heffective ((h.kept_iff logger format).1 hkept)⟩

/-- A session that reflects requests, the first of which makes settings, answers as they say. -/
lemma Reflects.answers {before : List Request} (h : Reflects before s) (r : Request)
    (hopened : Opened (before ++ [r])) : Answers before r (s.step r).2 := by
  cases r with
  | configure level format =>
    rcases s.step_configure level format with ⟨settings, hnamed, hstep⟩ | ⟨hno, f, hstep⟩
    · rw [hstep]
      exact .configured hnamed
    · rw [hstep]
      exact .refused hno f
  | bind fields => exact .bound (h.step (.bind fields)).context_eq
  | clear => exact .cleared
  | emit logger e =>
    have hbefore : before ≠ [] := by
      rintro rfl
      obtain ⟨r, later, settings, hsplit, hmakes⟩ := hopened
      obtain ⟨rfl, -⟩ := List.cons.inj hsplit
      exact Request.not_makes_emit logger e hmakes
    obtain ⟨settings, heffective⟩ := (hopened.of_append hbefore).exists_effective
    obtain ⟨own, hown, happlies⟩ := h.exists_applies heffective logger
    have hemits := Session.emits_emit hown h.nodup e
    have hcarried : (s.through logger).carried? e = carriedValue? before e := h.carried?_eq e
    rw [hcarried] at hemits
    exact .event happlies hemits

/-- What fails changes nothing, but that the logger of an event has been used. -/
lemma Session.step_of_isFault (s : Session) (r : Request) (h : (s.step r).2.IsFault) :
    (s.step r).1 = s ∨ ∃ logger e, r = .emit logger e ∧ (s.step r).1 = s.use logger := by
  cases r with
  | configure level format =>
    rcases s.step_configure level format with ⟨settings, -, hstep⟩ | ⟨-, f, hstep⟩
    · rw [hstep] at h
      exact h.elim
    · exact Or.inl (by rw [hstep])
  | bind fields => exact h.elim
  | clear => exact h.elim
  | emit logger e => exact Or.inr ⟨logger, e, rfl, rfl⟩

/-- Events that are not at fault are written from the level of the settings on. -/
lemma Emits.isSome_text?_iff {e : Event} {carried : Text → Option Json} {w : Written}
    (h : Emits settings e carried (.ok w)) :
    w.text?.isSome = true ↔ settings.level.severity ≤ e.level.severity := by
  cases h with
  | below _ hlevel => exact iff_of_false (by simp [Written.text?]) (Nat.not_le.2 hlevel)
  | object _ hlevel _ _ _ => exact iff_of_true rfl hlevel
  | plain _ hlevel _ _ t => exact iff_of_true rfl hlevel

lemma Effective.unique {other : Settings} (h : Effective requests settings)
    (hother : Effective requests other) : settings = other :=
  Option.some_inj.1 ((((reflects_run requests).settings_iff settings).2 h).symm.trans
    (((reflects_run requests).settings_iff other).2 hother))

lemma Applies.exists_effective (h : Applies requests logger settings) :
    ∃ made, Effective requests made ∧ made.level = settings.level := by
  cases h with
  | unused h _ => exact ⟨settings, h, rfl⟩
  | kept h _ => exact ⟨_, h, rfl⟩

/-- **Sessions.** After requests of which the first makes settings, a session has the settings of
the last one that makes any, in its context what was bound since it was last cleared, and for its
loggers the formats of their first uses.  Each request on the way is answered by what those before
it have left, and if it fails leaves the session as it was, but that the logger of an event has been
used; an event that does not fail is written exactly from the level of the settings on. -/
theorem run_reflects (h : Opened requests) :
    Reflects requests (Session.run {} requests).1 ∧ (∃ settings, Effective requests settings) ∧
    ∀ before r after, requests = before ++ r :: after →
      ∃ reply, (Session.run {} requests).2[before.length]? = some reply ∧
        Answers before r reply ∧
        (reply.IsFault → (Session.run {} (before ++ [r])).1 = (Session.run {} before).1 ∨
          ∃ logger e, r = .emit logger e ∧
            (Session.run {} (before ++ [r])).1 = (Session.run {} before).1.use logger) ∧
        ∀ logger e settings w, r = .emit logger e → Effective before settings →
          reply = .event (.ok w) →
          (w.text?.isSome = true ↔ settings.level.severity ≤ e.level.severity) := by
  refine ⟨reflects_run requests, h.exists_effective, ?_⟩
  rintro before r after rfl
  have hopened : Opened (before ++ [r]) := by
    rw [← List.singleton_append, ← List.append_assoc] at h
    exact h.of_append (by simp)
  have hanswers := (reflects_run before).answers r hopened
  refine ⟨_, Session.getElem?_run {} before r after, hanswers, fun hfault => ?_, ?_⟩
  · rw [Session.run_concat]
    exact Session.step_of_isFault _ r hfault
  · rintro logger e settings w rfl hsettings hreply
    rw [hreply] at hanswers
    cases hanswers with
    | event happlies hemits =>
      obtain ⟨made, hmade, hlevel⟩ := happlies.exists_effective
      obtain rfl := hsettings.unique hmade
      rw [hlevel]
      exact hemits.isSome_text?_iff

/-! ### A busy session -/

/-- An event whose text is filled is written as JSON with what is left of its fields. -/
lemma Session.emit_eq_object {e : Event} {level : Level} {text : Text} {left fields : Fields}
    (hsettings : s.settings = some ⟨level, .json⟩)
    (hname : e.fields.any (fun (key, _) => reservedNames.contains key) = false)
    (hlevel : s.writes e.level = true)
    (hrecord : Json.field? recordField (s.carried e) = none)
    (hfilled : filled e (Json.field? argumentsField (s.carried e)) = .ok text)
    (hleft : withoutRequests e (s.carried e) = left)
    (hfields : Session.eventFields e text left = fields)
    (hshort : Json.longField? fields = none) : s.emit e = .ok (.object fields) := by
  subst hleft hfields
  rw [emit, hname]
  simp only [hsettings, hlevel, hrecord, hfilled, inFormat, Except.mapError, Bind.bind,
    Except.bind, hshort]
  rfl

/-- Requests two of which fail, before an event that has fields with names of the program.  A logger
is used for an event that is left out, and then other settings are made. -/
def busyRequests : List Request := [
  .configure "info".toList "JSON".toList,
  .bind [("user".toList, .text "a".toList), ("step".toList, .int 1)],
  .configure "loud".toList "console".toList,
  .clear,
  .bind [("user".toList, .text "b".toList), ("level".toList, .int 9)],
  .bind [("user".toList, .text "c".toList)],
  .emit 0 { level := .debug, logger := "main".toList, text := "left out".toList },
  .configure "debug".toList "xml".toList,
  .configure "INFO".toList "console".toList]

/-- The session that they leave. -/
def busySession : Session where
  settings := some ⟨.info, .console⟩
  context := [("user".toList, .text "c".toList), ("level".toList, .int 9)]
  kept := [(0, .json)]

/-- An event after them. -/
def busyEvent : Event where
  level := .info
  logger := "main".toList
  text := "%d steps".toList
  arguments := [.int 3]
  fields := [("service".toList, .text "mine".toList), ("size".toList, .int 2)]

/-- What is written of it. -/
def busyFields : Fields := [
  ("user".toList, .text "c".toList), ("level".toList, .text "info".toList),
  ("service".toList, .text service), ("size".toList, .int 2), ("version".toList, .text version),
  ("event".toList, .text "3 steps".toList), ("logger".toList, .text "main".toList)]

lemma opened_busy : Opened (busyRequests ++ [.emit 0 busyEvent]) :=
  ⟨_, _, ⟨.info, .json⟩, rfl, _, _, rfl, by decide +kernel, by decide +kernel⟩

lemma run_busy : (Session.run {} busyRequests).1 = busySession := by
  have hmade : Settings.ofNames "info".toList "JSON".toList = .ok ⟨.info, .json⟩ := by
    decide +kernel
  have hlevel : Settings.ofNames "loud".toList "console".toList =
      .error (.level "LOUD".toList) := by
    decide +kernel
  have hformat : Settings.ofNames "debug".toList "xml".toList =
      .error (.format "xml".toList) := by
    decide +kernel
  have hchanged : Settings.ofNames "INFO".toList "console".toList = .ok ⟨.info, .console⟩ := by
    decide +kernel
  simp only [busyRequests, Session.run_cons, Session.step, Session.configure, hmade, hlevel,
    hformat, hchanged, Except.map, Session.run, Session.bind, Session.clear]
  rfl

lemma emit_busy : (busySession.through 0).emit busyEvent = .ok (.object busyFields) := by
  have hfilled : filled busyEvent (Json.field? argumentsField
      ((busySession.through 0).carried busyEvent)) = .ok "3 steps".toList := by
    cbv
  have hleft : withoutRequests busyEvent ((busySession.through 0).carried busyEvent) = [
      ("user".toList, .text "c".toList), ("level".toList, .int 9),
      ("service".toList, .text service), ("size".toList, .int 2),
      ("version".toList, .text version)] := by
    cbv
  refine Session.emit_eq_object rfl (by decide +kernel) (by decide +kernel) (by cbv) hfilled hleft
    ?_ (by cbv)
  have htag : busyEvent.level.tag = "info".toList := by decide +kernel
  rw [Session.eventFields, htag]
  simp [overlay, Json.setField, busyFields, busyEvent]

lemma getElem?_run_busy :
    (Session.run {} (busyRequests ++ [.emit 0 busyEvent])).2[busyRequests.length]? =
      some (.event (.ok (.object busyFields))) := by
  rw [Session.getElem?_run, run_busy, Session.step, emit_busy]

theorem run_reflects_busy :
    Opened (busyRequests ++ [.emit 0 busyEvent]) ∧
      Answers busyRequests (.emit 0 busyEvent) (.event (.ok (.object busyFields))) := by
  refine ⟨opened_busy, ?_⟩
  obtain ⟨-, -, hreplies⟩ := run_reflects opened_busy
  obtain ⟨reply, hreply, hanswers, -⟩ := hreplies busyRequests (.emit 0 busyEvent) [] rfl
  obtain rfl := Option.some.inj (hreply.symm.trans getElem?_run_busy)
  exact hanswers

/-! ### What is not carried, what is not written, and what is not reformatted -/

/-- Requests after which the context holds a field that asks for something. -/
def askingRequests : List Request := [
  .configure "INFO".toList "json".toList,
  .bind [(exceptionRequest, .bool false)]]

/-- The session that they leave. -/
def askingSession : Session where
  settings := some ⟨.info, .json⟩
  context := [(exceptionRequest, .bool false)]

/-- An event with nothing but its text. -/
def bareEvent : Event where
  level := .info
  logger := "main".toList
  text := "start".toList

/-- What is written of it: the fields of the program. -/
def bareFields : Fields := [
  ("service".toList, .text service), ("version".toList, .text version),
  ("event".toList, .text "start".toList), ("logger".toList, .text "main".toList),
  ("level".toList, .text "info".toList)]

/-- The same event with a field that has the name of its text. -/
def doubledEvent : Event := { bareEvent with fields := [("event".toList, .text "x".toList)] }

lemma run_asking : (Session.run {} askingRequests).1 = askingSession := by
  have hmade : Settings.ofNames "INFO".toList "json".toList = .ok ⟨.info, .json⟩ := by
    decide +kernel
  simp only [askingRequests, Session.run_cons, Session.step, Session.configure, hmade,
    Except.map, Session.run, Session.bind]
  rfl

lemma emit_bare : (askingSession.through 0).emit bareEvent = .ok (.object bareFields) := by
  have hfilled : filled bareEvent (Json.field? argumentsField
      ((askingSession.through 0).carried bareEvent)) = .ok "start".toList := by
    cbv
  have hleft : withoutRequests bareEvent ((askingSession.through 0).carried bareEvent) =
      stampFields := by
    cbv
  refine Session.emit_eq_object rfl rfl (by decide +kernel) (by cbv) hfilled hleft ?_ (by cbv)
  have htag : bareEvent.level.tag = "info".toList := by decide +kernel
  rw [Session.eventFields, htag]
  simp [overlay, Json.setField, stampFields, bareFields, bareEvent]

/-- After the same requests, a field that was bound is missing from an event that is written, and an
event of the level of the settings is not written for the name of its own field.  An event is
written as JSON although the last settings have the other format, since its logger has been used
before. -/
theorem not_carried_not_reformatted :
    Opened askingRequests ∧ Effective askingRequests ⟨.info, .json⟩ ∧
    (boundValue? askingRequests exceptionRequest = some (.bool false) ∧
      (Session.run {} (askingRequests ++ [.emit 0 bareEvent])).2[askingRequests.length]? =
        some (.event (.ok (.object bareFields))) ∧
      exceptionRequest ∉ bareFields.map (·.1)) ∧
    (Level.info.severity ≤ doubledEvent.level.severity ∧
      (Session.run {} (askingRequests ++ [.emit 0 doubledEvent])).2[askingRequests.length]? =
        some (.event (.error .fieldName))) ∧
    (Effective busyRequests ⟨.info, .console⟩ ∧
      (Session.run {} (busyRequests ++ [.emit 0 busyEvent])).2[busyRequests.length]? =
        some (.event (.ok (.object busyFields)))) := by
  have hopened : Opened askingRequests :=
    ⟨_, _, ⟨.info, .json⟩, rfl, _, _, rfl, by decide +kernel, by decide +kernel⟩
  have hreflects := reflects_run askingRequests
  rw [run_asking] at hreflects
  have hbound : boundValue? askingRequests exceptionRequest = some (.bool false) := by
    rw [← hreflects.context_eq]
    rfl
  have hbusy := reflects_run busyRequests
  rw [run_busy] at hbusy
  refine ⟨hopened, (hreflects.settings_iff _).1 rfl, ⟨hbound, ?_, by decide +kernel⟩,
    ⟨le_rfl, ?_⟩, (hbusy.settings_iff _).1 rfl, getElem?_run_busy⟩
  · rw [Session.getElem?_run, run_asking, Session.step, emit_bare]
  · rw [Session.getElem?_run, run_asking]
    rfl

end Retrace.Journal
