import Retrace.Proofs.SourceMap.Document
import Retrace.Proofs.Traversal

/-!
# Guard lines

A guard line in front of a map keeps the text from being run as a script, and the reading of a
regular map passes over it.  Whether a text is one of an index map is decided before that, on the
text as it stands, and with a guard in front it is no JSON and counts as regular.  So behind a guard
an object is read as a regular map, whatever sections it has (`load_guardLine`).

`guard_ignored_iff` says for which objects that makes no difference.  It makes none for an object
without sections, which has the same outcome with and without a guard, faults included.  It does for
every index map that is accepted and has no sources beside its sections: behind a guard it is
rejected.
-/

namespace Retrace.SourceMap

variable {path : Option Text} {t : Text} {fields : List (Text × Json)}

/-- The guard line that is put in front of maps. -/
def guardLine : Text := guardOpening ++ "'\n".toList

/-- Two outcomes of loading are alike: both are maps or neither is, and two maps answer every query
in the same way. -/
def Alike (x y : Except LoadFault SourceMap) : Prop :=
  ((∃ m, x = .ok m) ↔ ∃ m, y = .ok m) ∧
    ∀ m n, x = .ok m → y = .ok n → ∀ line column, m.resolve line column = n.resolve line column

/-- A guard line in front of a text is ignored. -/
def GuardIgnored (path : Option Text) (t : Text) : Prop :=
  Alike (load path (guardLine ++ t)) (load path t)

/-- What comes of an object that is read as a regular map. -/
def loadObject (path : Option Text) (fields : List (Text × Json)) : Except LoadFault SourceMap :=
  ((decodeRegular (.object fields)).mapError (.rejected · path)).map .regular

/-! ## Outcomes -/

lemma alike_refl (x : Except LoadFault SourceMap) : Alike x x := by
  refine ⟨Iff.rfl, fun m n hm hn line column => ?_⟩
  obtain rfl := Except.ok.inj (hm.symm.trans hn)
  rfl

/-- Two outcomes are alike if neither is a map, or if both are maps with the same answers. -/
lemma alike_iff {x y : Except LoadFault SourceMap} :
    Alike x y ↔ ((¬ ∃ m, x = .ok m) ∧ ¬ ∃ n, y = .ok n) ∨
      ∃ m n, x = .ok m ∧ y = .ok n ∧
        ∀ line column, m.resolve line column = n.resolve line column := by
  constructor
  · rintro ⟨hboth, hanswers⟩
    by_cases hx : ∃ m, x = .ok m
    · obtain ⟨m, hm⟩ := hx
      obtain ⟨n, hn⟩ := hboth.1 ⟨m, hm⟩
      exact Or.inr ⟨m, n, hm, hn, hanswers m n hm hn⟩
    · exact Or.inl ⟨hx, mt hboth.2 hx⟩
  · rintro (⟨hx, hy⟩ | ⟨m, n, rfl, rfl, hanswers⟩)
    · exact ⟨iff_of_false hx hy, fun m n hm => absurd ⟨m, hm⟩ hx⟩
    · refine ⟨iff_of_true ⟨m, rfl⟩ ⟨n, rfl⟩, ?_⟩
      rintro m' n' hm hn
      obtain rfl := Except.ok.inj hm
      obtain rfl := Except.ok.inj hn
      exact hanswers

lemma loadObject_eq_ok_iff {m : SourceMap} :
    loadObject path fields = .ok m ↔
      ∃ table, decodeRegular (.object fields) = .ok table ∧ .regular table = m := by
  rw [loadObject, map_eq_ok_iff]
  simp only [mapError_eq_ok_iff]

lemma exists_loadObject_iff :
    (∃ m, loadObject path fields = .ok m) ↔
      ∃ table, decodeRegular (.object fields) = .ok table := by
  simp only [loadObject_eq_ok_iff]
  constructor
  · rintro ⟨m, table, htable, -⟩
    exact ⟨table, htable⟩
  · rintro ⟨table, htable⟩
    exact ⟨_, table, htable, rfl⟩

/-! ## Reading -/

lemma afterGuard_guardLine (t : Text) : afterGuard (guardLine ++ t) = .ok t := rfl

/-- Behind a guard no text is one of an index map. -/
lemma sectionsOf?_guardLine (t : Text) : sectionsOf? (guardLine ++ t) = none := by
  obtain ⟨f, hf⟩ := parse_guardOpening ("'\n".toList ++ t)
  rw [← List.append_assoc] at hf
  change Json.parse (guardLine ++ t) = .error f at hf
  simp only [sectionsOf?, hf]

lemma load_of_readRegular {table : Except Fault Table} (hsections : sectionsOf? t = none)
    (hread : readRegular t = table) :
    load path t = (table.mapError (.rejected · path)).map .regular := by
  rw [load, read, hsections, hread]
  cases table with
  | error f => rfl
  | ok table => rfl

/-- Behind a guard an object is read as a regular map. -/
lemma load_guardLine (h : Json.parse t = .ok (.object fields)) :
    load path (guardLine ++ t) = loadObject path fields := by
  refine load_of_readRegular (sectionsOf?_guardLine t) ?_
  rw [readRegular, afterGuard_guardLine]
  simp only [bind, Except.bind, h]

/-- Without a guard so is an object that has no sections. -/
lemma load_of_lacks (h : Json.parse t = .ok (.object fields)) (hsections : Lacks "sections" fields) :
    load path t = loadObject path fields := by
  refine load_of_readRegular (sectionsOf?_eq_none h hsections) ?_
  rw [readRegular, afterGuard_of_parse h]
  simp only [bind, Except.bind, h]

lemma loadObject_of_sources_eq_none (h : Json.field? "sources".toList fields = none) :
    loadObject path fields = .error (.rejected (.missing "sources".toList) path) := by
  have hfield : field "sources".toList (.object fields) = .error (.missing "sources".toList) := by
    simp only [field, h]
  rw [loadObject, decodeRegular, hfield]
  rfl

/-- **Ignored guards.** A guard line in front of the text of an object is ignored exactly if the
object has no sections, or it is neither accepted nor one of a regular map, or it is both and the
two maps have the same answers.  Without sections the outcomes are even equal.  An object that has
no sources of its own is rejected behind a guard. -/
theorem guard_ignored_iff (h : Json.parse t = .ok (.object fields)) (path : Option Text) :
    (GuardIgnored path t ↔
      Lacks "sections" fields ∨
        ((¬ ∃ table, decodeRegular (.object fields) = .ok table) ∧ ¬ ∃ m, load path t = .ok m) ∨
        ∃ table m, decodeRegular (.object fields) = .ok table ∧ load path t = .ok m ∧
          ∀ line column, (regular table).resolve line column = m.resolve line column) ∧
      (Lacks "sections" fields → load path (guardLine ++ t) = load path t) ∧
      (Json.field? "sources".toList fields = none →
        load path (guardLine ++ t) = .error (.rejected (.missing "sources".toList) path)) := by
  have hguarded : load path (guardLine ++ t) = loadObject path fields := load_guardLine h
  have hregular : Lacks "sections" fields → load path (guardLine ++ t) = load path t :=
    fun hsections => hguarded.trans (load_of_lacks h hsections).symm
  have hignored : GuardIgnored path t ↔
      ((¬ ∃ table, decodeRegular (.object fields) = .ok table) ∧ ¬ ∃ m, load path t = .ok m) ∨
        ∃ table m, decodeRegular (.object fields) = .ok table ∧ load path t = .ok m ∧
          ∀ line column, (regular table).resolve line column = m.resolve line column := by
    rw [GuardIgnored, hguarded, alike_iff, exists_loadObject_iff]
    refine or_congr_right ⟨?_, ?_⟩
    · rintro ⟨m, n, hm, hn, hanswers⟩
      obtain ⟨table, htable, rfl⟩ := loadObject_eq_ok_iff.1 hm
      exact ⟨table, n, htable, hn, hanswers⟩
    · rintro ⟨table, n, htable, hn, hanswers⟩
      exact ⟨_, n, loadObject_eq_ok_iff.2 ⟨table, htable, rfl⟩, hn, hanswers⟩
  refine ⟨⟨fun hguard => Or.inr (hignored.1 hguard), ?_⟩, hregular, fun hsources => ?_⟩
  · rintro (hsections | hrest)
    · rw [GuardIgnored, hregular hsections]
      exact alike_refl _
    · exact hignored.2 hrest
  · rw [hguarded, loadObject_of_sources_eq_none hsources]

/-! ### A regular map and an index map behind a guard -/

/-- The text of a regular map with one token. -/
def oneTokenText : Text :=
  "\x7b\"sources\":[\"a.js\"],\"names\":[],\"mappings\":\"AAAA\"\x7d".toList

/-- The text of an index map with that map as its only section. -/
def oneSectionText : Text :=
  "\x7b\"sections\":[\x7b\"offset\":\x7b\"line\":0,\"column\":0\x7d,\"map\":".toList ++ oneTokenText
    ++ "\x7d]\x7d".toList

/-- The table of the map with one token. -/
def oneTokenTable : Table := [[⟨0, some ⟨.text "a.js".toList, 0, 0, none⟩⟩]]

theorem guard_ignored_iff_oneToken :
    load none (guardLine ++ oneTokenText) = .ok (.regular oneTokenTable) ∧
      GuardIgnored none oneTokenText := by
  obtain ⟨fields, hfields, hsections⟩ : ∃ fields, Json.parse oneTokenText = .ok (.object fields) ∧
      Lacks "sections" fields := ⟨_, by cbv, Or.inl rfl⟩
  obtain ⟨hignored, -, -⟩ := guard_ignored_iff hfields none
  exact ⟨by cbv, hignored.2 (Or.inl hsections)⟩

/-- The index map is accepted, but not behind a guard. -/
theorem not_guardIgnored_oneSection :
    load none oneSectionText = .ok (.indexed [⟨0, 0, oneTokenTable⟩]) ∧
      load none (guardLine ++ oneSectionText) =
        .error (.rejected (.missing "sources".toList) none) ∧
      ¬ GuardIgnored none oneSectionText := by
  have hload : load none oneSectionText = .ok (.indexed [⟨0, 0, oneTokenTable⟩]) := by cbv
  have hguarded : load none (guardLine ++ oneSectionText) =
      .error (.rejected (.missing "sources".toList) none) := by cbv
  refine ⟨hload, hguarded, ?_⟩
  rintro ⟨hboth, -⟩
  obtain ⟨m, hm⟩ := hboth.2 ⟨_, hload⟩
  rw [hguarded] at hm
  cases hm

end Retrace.SourceMap
