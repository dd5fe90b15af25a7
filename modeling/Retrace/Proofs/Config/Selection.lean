import Retrace.Config.Load
import Retrace.Config.Words
import Retrace.Proofs.Trace.Block
import Retrace.Proofs.Traversal

/-!
# The trace that a configuration selects

A configuration says by which marker the trace is found and which separator lies between the blocks
of a report.  A marker that holds the separator is found in no block, so such settings are refused,
as are an empty marker and a separator on one line: what is left is `Coherent`.

A configuration is loaded in one of several ways, but all of them end in reading some layer of
settings and in the check of what comes of it (`exists_layer_of_load`).  That settles the separator.
The marker is settled before, where its setting is read: the default is not empty, and no value is
read as an empty one (`marker_ne_nil_of_readLayer`).
-/

namespace Retrace.Config

open Trace (selectBlock)
open Yaml (Value)

variable {α : Type}

/-- Settings by which a trace can be found. -/
structure Coherent (s : TraceSettings) : Prop where
  marker_ne_nil : s.marker ≠ []
  lineFeed_mem : '\n' ∈ s.separator
  not_infix : ¬ s.separator <:+: s.marker

/-! ## Conflicts -/

lemma conflict?_eq_none_iff {c : Config} :
    c.conflict? = none ↔ '\n' ∈ c.trace.separator ∧ ¬ c.trace.separator <:+: c.trace.marker := by
  rw [conflict?, ← Text.occursIn_iff]
  by_cases hfeed : '\n' ∈ c.trace.separator
  · simp [hfeed]
  · simp [hfeed]

lemma checkConflict_eq_ok_iff {c d : Config} :
    checkConflict c = .ok d ↔ c = d ∧ c.conflict? = none := by
  rw [checkConflict]
  split
  · next conflict hconflict => simp [hconflict]
  · next hconflict => simp [hconflict]

/-! ## Settings -/

lemma result_both_eq_some_iff {β γ : Type} {f : α → β → γ} {a : Checked α} {b : Checked β} {c : γ} :
    (Checked.both f a b).result = some c ↔
      ∃ x y, a.result = some x ∧ b.result = some y ∧ f x y = c := by
  simp [Checked.both, Option.bind_eq_some_iff]

/-- What comes of a key is its default, or is read from its value. -/
lemma result_readKey_cases {name key : Text} {read : Value → Except ProblemKind α} {default a : α}
    {fields : Fields} (h : (readKey name key read default fields).result = some a) :
    a = default ∨ ∃ v, read v = .ok a := by
  unfold readKey at h
  split at h
  · exact Or.inl (Option.some.inj h).symm
  · next v _ =>
    split at h
    · next b hb =>
      obtain rfl := Option.some.inj h
      exact Or.inr ⟨v, hb⟩
    · cases h

/-- What comes of a section is its default, or is read from its fields. -/
lemma result_readSection_cases {name : Text} {read : Fields → Checked α} {default a : α}
    {layer : Fields} (h : (readSection name read default layer).result = some a) :
    a = default ∨ ∃ fields, (read fields).result = some a := by
  unfold readSection at h
  split at h
  · exact Or.inl (Option.some.inj h).symm
  · next fields _ _ => exact Or.inr ⟨fields, h⟩
  · cases h

/-- No value is read as an empty marker. -/
lemma readMarker_ne_nil {v : Value} {t : Text} (h : readMarker v = .ok t) : t ≠ [] := by
  rintro rfl
  unfold readMarker at h
  split at h
  · cases h
  · next hread => exact hread h

lemma marker_ne_nil_of_readTrace {fields : Fields} {s : TraceSettings}
    (h : (readTrace fields).result = some s) : s.marker ≠ [] := by
  obtain ⟨marker, separator, hmarker, -, rfl⟩ := result_both_eq_some_iff.1 h
  rcases result_readKey_cases hmarker with rfl | ⟨v, hv⟩
  · exact List.cons_ne_nil _ _
  · exact readMarker_ne_nil hv

/-! ## Layers -/

lemma exists_result_of_readLayer {layer : Fields} {strays : List Text} {c : Config}
    (h : readLayer layer strays = .ok c) :
    (readSection "trace".toList readTrace {} layer).result = some c.trace := by
  unfold readLayer at h
  dsimp only at h
  split at h
  · next d hd _ =>
    obtain rfl := Except.ok.inj h
    obtain ⟨trace, rest, htrace, -, rfl⟩ := result_both_eq_some_iff.1 hd
    exact htrace
  · cases h

/-- The marker of the configuration of a layer is not empty. -/
lemma marker_ne_nil_of_readLayer {layer : Fields} {strays : List Text} {c : Config}
    (h : readLayer layer strays = .ok c) : c.trace.marker ≠ [] := by
  rcases result_readSection_cases (exists_result_of_readLayer h) with hdefault | ⟨fields, hfields⟩
  · rw [hdefault]
    exact List.cons_ne_nil _ _
  · exact marker_ne_nil_of_readTrace hfields

/-! ## Loading -/

/-- A configuration comes from a layer, and is checked. -/
def FromLayer (c : Config) : Prop :=
  (∃ layer strays, readLayer layer strays = .ok c) ∧ c.conflict? = none

lemma fromLayer_of_ofEnvironment {env : Environment} {c : Config}
    (h : ofEnvironment env = .ok c) : FromLayer c := by
  unfold ofEnvironment at h
  dsimp only at h
  split at h
  · cases h
  · next layer _ =>
    split at h
    · cases h
    · next d hd =>
      obtain ⟨rfl, hconflict⟩ := checkConflict_eq_ok_iff.1 h
      exact ⟨⟨layer, [], hd⟩, hconflict⟩

variable {host : Host} {tree : FileTree} {env : Environment} {fields : Fields} {c : Config}

lemma fromLayer_of_ofAround {a : Around} (h : ofAround a fields = .ok c) : FromLayer c := by
  unfold ofAround at h
  dsimp only at h
  split at h
  · cases h
  · next d hd =>
    obtain ⟨rfl, hconflict⟩ := checkConflict_eq_ok_iff.1 h
    exact ⟨⟨_, _, hd⟩, hconflict⟩

lemma fromLayer_of_ofRules {r : Rules} (h : ofRules host tree env r fields = .ok c) :
    FromLayer c := by
  unfold ofRules at h
  split at h
  · cases h
  · exact fromLayer_of_ofAround h

lemma fromLayer_of_ofFields (h : ofFields host tree env fields = .ok c) : FromLayer c := by
  unfold ofFields at h
  split at h
  · cases h
  · exact fromLayer_of_ofRules h

lemma fromLayer_of_ofDocument {v : Value} (h : ofDocument host tree env v = .ok c) :
    FromLayer c := by
  unfold ofDocument at h
  split at h
  · exact fromLayer_of_ofFields h
  · split at h
    · split at h
      · cases h
      · exact fromLayer_of_ofFields h
    · cases h

/-- However a configuration is loaded, it comes from a layer and is checked. -/
theorem fromLayer_of_load {path : Option Text} (h : load host tree env path = .ok c) :
    FromLayer c := by
  cases path with
  | none => exact fromLayer_of_ofEnvironment h
  | some path =>
    obtain ⟨v, -, hv⟩ := bind_eq_ok_iff.1 h
    exact fromLayer_of_ofDocument hv

lemma FromLayer.coherent {c : Config} (h : FromLayer c) : Coherent c.trace := by
  obtain ⟨⟨layer, strays, hlayer⟩, hconflict⟩ := h
  obtain ⟨hfeed, hclear⟩ := conflict?_eq_none_iff.1 hconflict
  exact ⟨marker_ne_nil_of_readLayer hlayer, hfeed, hclear⟩

/-! ## Selection -/

lemma Coherent.separator_ne_nil {s : TraceSettings} (h : Coherent s) : s.separator ≠ [] :=
  List.ne_nil_of_mem h.lineFeed_mem

/-- **Selectable traces.** A marker is selected in some report exactly if it does not hold the
separator, so the check of a separator over a line end passes exactly if there is such a report.
The settings of every configuration that is loaded are coherent: its marker is selected in some
report, and where it symbolicates a report, selection fails only if no block has the marker. -/
theorem selectable_iff :
    (∀ marker separator : Text, separator ≠ [] →
      ((∃ report block, selectBlock marker separator report = .ok block) ↔
        ¬ separator <:+: marker)) ∧
      (∀ c : Config, '\n' ∈ c.trace.separator →
        (c.conflict? = none ↔
          ∃ report block, selectBlock c.trace.marker c.trace.separator report = .ok block)) ∧
      ∀ host tree env path c, load host tree env path = .ok c →
        Coherent c.trace ∧
          (∃ report block, selectBlock c.trace.marker c.trace.separator report = .ok block) ∧
          ∀ long report,
            (∃ block, selectBlock (c.symbolication long).marker (c.symbolication long).separator
              report = .ok block) ∨
            selectBlock (c.symbolication long).marker (c.symbolication long).separator report =
              .error (.noBlock c.trace.marker) := by
  refine ⟨fun marker separator hne => Trace.exists_selectBlock_iff hne, fun c hfeed => ?_, ?_⟩
  · rw [conflict?_eq_none_iff, Trace.exists_selectBlock_iff (List.ne_nil_of_mem hfeed)]
    exact and_iff_right hfeed
  · intro host tree env path c h
    have hcoherent : Coherent c.trace := (fromLayer_of_load h).coherent
    have hne : c.trace.separator ≠ [] := hcoherent.separator_ne_nil
    exact ⟨hcoherent, (Trace.exists_selectBlock_iff hne).2 hcoherent.not_infix,
      fun _ => Trace.selectBlock_cases hne c.trace.marker⟩

/-- An environment that sets the marker as JSON and the separator by its key. -/
def mixedEnvironment : Environment := [
  ("CRASHLYFIX_TRACE".toList, "\x7b\"marker\":\"Crash\"\x7d".toList),
  ("crashlyfix_trace__block_separator".toList, "\n--\n".toList)]

theorem selectable_iff_mixed :
    (∃ report block, selectBlock "aba".toList "bb".toList report = .ok block) ∧
      ∃ c, load (.plain [] []) {} mixedEnvironment none = .ok c ∧
        c.trace = ⟨"Crash".toList, "\n--\n".toList⟩ ∧ Coherent c.trace ∧
        selectBlock c.trace.marker c.trace.separator [] = .error (.noBlock c.trace.marker) := by
  obtain ⟨hmarker, -, hload⟩ := selectable_iff
  have hmixed : load (.plain [] []) {} mixedEnvironment none =
      .ok { trace := ⟨"Crash".toList, "\n--\n".toList⟩ } := by cbv
  obtain ⟨hcoherent, -, -⟩ := hload _ _ _ _ _ hmixed
  refine ⟨(hmarker _ _ (by decide)).2 ?_, _, hmixed, rfl, hcoherent, by decide⟩
  exact Text.occursIn_eq_false_iff.1 (by decide)

end Retrace.Config
