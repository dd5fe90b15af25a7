import Mathlib
import Retrace.Json.Basic

/-!
# Fields

Looking up a key among fields, and setting it.  Where no key comes twice, a look-up is membership
(`field?_eq_some_iff`), so the order of the fields does not matter to it (`field?_perm`).  Of fields
that are set one after another the last one for a key counts (`field?_setFields`).
-/

namespace Retrace.Json

variable {α β : Type} {key other : Text} {v : α} {fields : List (Text × α)}

/-! ## Looking up a key -/

@[simp] lemma field?_nil : field? key ([] : List (Text × α)) = none := rfl

lemma field?_cons (field : Text × α) (fields : List (Text × α)) :
    field? key (field :: fields) = if field.1 = key then some field.2 else field? key fields := rfl

lemma field?_eq_none_iff : field? key fields = none ↔ key ∉ fields.map (·.1) := by
  induction fields with
  | nil => simp
  | cons field fields ih =>
    rw [field?_cons]
    split
    · next h => simp [h]
    · next h => simp [ih, Ne.symm h]

lemma mem_of_field? (h : field? key fields = some v) : (key, v) ∈ fields := by
  induction fields with
  | nil => cases h
  | cons field fields ih =>
    rw [field?_cons] at h
    split at h
    · next hkey =>
      obtain rfl := Option.some.inj h
      exact hkey ▸ List.mem_cons_self
    · exact List.mem_cons_of_mem _ (ih h)

/-- Where no key comes twice, a look-up finds whatever the fields hold. -/
lemma field?_eq_some_iff (hnodup : (fields.map (·.1)).Nodup) :
    field? key fields = some v ↔ (key, v) ∈ fields := by
  refine ⟨mem_of_field?, fun hmem => ?_⟩
  cases h : field? key fields with
  | none => exact absurd (List.mem_map_of_mem hmem) (field?_eq_none_iff.1 h)
  | some w =>
    have hsame := List.inj_on_of_nodup_map hnodup hmem (mem_of_field? h) rfl
    rw [(Prod.mk.inj hsame).2]

lemma field?_perm {fields' : List (Text × α)} (h : fields.Perm fields')
    (hnodup : (fields.map (·.1)).Nodup) : field? key fields = field? key fields' := by
  have hnodup' := (h.map (·.1)).nodup_iff.1 hnodup
  refine Option.ext fun v => ?_
  rw [field?_eq_some_iff hnodup, field?_eq_some_iff hnodup', h.mem_iff]

/-- Where at most one item satisfies a test, the order does not matter to finding it. -/
lemma find?_perm {items items' : List β} {p : β → Bool} (h : items.Perm items')
    (hone : (items.filter p).length ≤ 1) : items.find? p = items'.find? p := by
  have hfilter : items.filter p = items'.filter p := by
    have hperm := h.filter p
    generalize items.filter p = matching at hone hperm
    match matching, hone with
    | [], _ => exact (List.nil_perm.1 hperm).symm
    | [item], _ => exact List.singleton_perm.1 hperm
  rw [← List.head?_filter, hfilter, List.head?_filter]

lemma field?_append (front back : List (Text × α)) :
    field? key (front ++ back) = (field? key front).or (field? key back) := by
  induction front with
  | nil => rfl
  | cons field front ih =>
    rw [List.cons_append, field?_cons, field?_cons, ih]
    split <;> rfl

lemma field?_filter_ne (h : other ≠ key) :
    field? other (fields.filter (·.1 ≠ key)) = field? other fields := by
  induction fields with
  | nil => rfl
  | cons field fields ih =>
    rw [List.filter_cons, field?_cons]
    split
    · rw [field?_cons, ih]
    · next hkey =>
      have hsame : field.1 = key := by simpa using hkey
      rw [ih, if_neg fun hother => h (hother.symm.trans hsame)]

lemma field?_eq_find? (key : Text) (fields : List (Text × α)) :
    field? key fields = (fields.find? fun field => field.1 = key).map (·.2) := by
  induction fields with
  | nil => rfl
  | cons field fields ih =>
    rw [field?_cons, List.find?_cons, ih]
    by_cases h : field.1 = key
    · rw [if_pos h, decide_eq_true h]
      rfl
    · rw [if_neg h, decide_eq_false h]

/-- Looking up a key that fields are given by their keys, as `f` says, with values, as `g` says. -/
lemma field?_map (f : Text → Text) (g : α → β) :
    field? key (fields.map fun field => (f field.1, g field.2)) =
      (fields.find? fun field => f field.1 = key).map fun field => g field.2 := by
  rw [field?_eq_find?, List.find?_map, Option.map_map]
  rfl

/-! ## Fields made of items -/

variable {name : β → Text} {value : β → Option α} {items : List β}

lemma keys_filterMap_sublist : ((items.filterMap fun item =>
    (value item).map (name item, ·)).map (·.1)).Sublist (items.map name) := by
  induction items with
  | nil => exact List.Sublist.refl _
  | cons first items ih =>
    rw [List.filterMap_cons, List.map_cons]
    cases value first with
    | none => exact ih.cons _
    | some v => exact ih.cons_cons _

/-- Fields made of the items that have a value, under the names of the items. -/
lemma field?_filterMap (name : β → Text) (value : β → Option α) (hnodup : (items.map name).Nodup)
    {item : β} (hitem : item ∈ items) :
    field? (name item) (items.filterMap fun item => (value item).map (name item, ·)) =
      value item := by
  induction items with
  | nil => cases hitem
  | cons first items ih =>
    obtain ⟨hfirst, hrest⟩ := List.nodup_cons.1 hnodup
    rw [List.filterMap_cons]
    rcases List.mem_cons.1 hitem with rfl | hitem
    · cases value item with
      | none => exact field?_eq_none_iff.2 fun hmem => hfirst (keys_filterMap_sublist.subset hmem)
      | some v => simp [field?_cons]
    · have hne : name first ≠ name item := fun h => hfirst (h ▸ List.mem_map_of_mem hitem)
      cases value first with
      | none => exact ih hrest hitem
      | some v => simpa [field?_cons, hne] using ih hrest hitem

/-! ## Setting a key -/

@[simp] lemma field?_setField_self : field? key (setField key v fields) = some v := by
  induction fields with
  | nil => simp [setField, field?]
  | cons field fields ih =>
    rw [setField]
    split
    · next h => simp [field?, h]
    · next h => simp [field?, h, ih]

@[simp] lemma field?_setField_of_ne (h : other ≠ key) :
    field? other (setField key v fields) = field? other fields := by
  induction fields with
  | nil => simp [setField, field?, h.symm]
  | cons field fields ih =>
    rw [setField]
    split
    · next hkey => simp [field?, hkey, h.symm]
    · simp [field?, ih]

lemma setField_of_not_mem (h : key ∉ fields.map (·.1)) :
    setField key v fields = fields ++ [(key, v)] := by
  induction fields with
  | nil => rfl
  | cons field fields ih =>
    rw [List.map_cons, List.mem_cons, not_or] at h
    rw [setField, if_neg (Ne.symm h.1), ih h.2, List.cons_append]

lemma mem_setField {field : Text × α} (h : field ∈ setField key v fields) :
    field = (key, v) ∨ field ∈ fields := by
  induction fields with
  | nil => exact Or.inl (List.mem_singleton.1 h)
  | cons first fields ih =>
    rw [setField] at h
    split at h
    · next hkey =>
      rcases List.mem_cons.1 h with rfl | h
      · exact Or.inl (by rw [hkey])
      · exact Or.inr (List.mem_cons_of_mem _ h)
    · rcases List.mem_cons.1 h with rfl | h
      · exact Or.inr List.mem_cons_self
      · exact (ih h).imp_right (List.mem_cons_of_mem _)

/-- Setting a key makes no key come twice. -/
lemma nodup_setField (h : (fields.map (·.1)).Nodup) :
    ((setField key v fields).map (·.1)).Nodup := by
  induction fields with
  | nil => simp [setField]
  | cons field fields ih =>
    obtain ⟨hfirst, hrest⟩ := List.nodup_cons.1 h
    rw [setField]
    split
    · exact h
    · next hkey =>
      refine List.nodup_cons.2 ⟨fun hmem => ?_, ih hrest⟩
      obtain ⟨other, hother, heq⟩ := List.mem_map.1 hmem
      rcases mem_setField hother with rfl | hother
      · exact hkey heq.symm
      · exact hfirst (heq ▸ List.mem_map_of_mem hother)

/-- Fields that satisfy a test on their keys are not touched by a key that does not. -/
lemma filter_setField_of_not {p : Text → Bool} (h : p key = false) :
    (setField key v fields).filter (p ·.1) = fields.filter (p ·.1) := by
  induction fields with
  | nil => simp [setField, h]
  | cons field fields ih =>
    rw [setField]
    split
    · next hkey => simp [hkey, h]
    · simp only [List.filter_cons, ih]

/-- If at most one field satisfies a test on the keys, a key that does is the last one to satisfy it
once it is set. -/
lemma getLast?_filter_setField {p : Text → Bool} (h : p key = true)
    (hone : (fields.filter (p ·.1)).length ≤ 1) :
    ((setField key v fields).filter (p ·.1)).getLast? = some (key, v) := by
  induction fields with
  | nil => simp [setField, h]
  | cons field fields ih =>
    rw [setField]
    split
    · next hkey =>
      subst hkey
      have hnone : fields.filter (p ·.1) = [] := by simpa [h] using hone
      simp [h, hnone]
    · rw [List.filter_cons] at hone ⊢
      split
      · next hfirst =>
        rw [if_pos hfirst] at hone
        have hlast := ih ((Nat.le_succ _).trans hone)
        rw [List.getLast?_cons, hlast]
        rfl
      · next hfirst =>
        rw [if_neg hfirst] at hone
        exact ih hone

/-! ## Setting several keys -/

/-- Sets keys one after another. -/
def setFields (later fields : List (Text × α)) : List (Text × α) :=
  later.foldl (fun fields field => setField field.1 field.2 fields) fields

@[simp] lemma setFields_nil (fields : List (Text × α)) : setFields [] fields = fields := rfl

@[simp] lemma setFields_cons (field : Text × α) (later fields : List (Text × α)) :
    setFields (field :: later) fields = setFields later (setField field.1 field.2 fields) := rfl

lemma setFields_append (later latest fields : List (Text × α)) :
    setFields (later ++ latest) fields = setFields latest (setFields later fields) :=
  List.foldl_append

/-- Of the fields that are set for a key the last one counts. -/
lemma field?_setFields (later : List (Text × α)) :
    field? key (setFields later fields) = (field? key later.reverse).or (field? key fields) := by
  induction later using List.reverseRecOn with
  | nil => rfl
  | append_singleton later field ih =>
    rw [setFields_append, setFields_cons, setFields_nil, List.reverse_append,
      List.reverse_singleton, List.singleton_append, field?_cons]
    split
    · next hkey => rw [hkey, field?_setField_self, Option.some_or]
    · next hkey => rw [field?_setField_of_ne (Ne.symm hkey), ih]

lemma nodup_setFields (later : List (Text × α)) (h : (fields.map (·.1)).Nodup) :
    ((setFields later fields).map (·.1)).Nodup := by
  induction later generalizing fields with
  | nil => exact h
  | cons field later ih => exact ih (nodup_setField h)

/-- Keys that come once are set over all others. -/
lemma mem_setFields_iff {later : List (Text × α)} (hlater : (later.map (·.1)).Nodup)
    (hnodup : (fields.map (·.1)).Nodup) :
    (key, v) ∈ setFields later fields ↔
      (key, v) ∈ later ∨ key ∉ later.map (·.1) ∧ (key, v) ∈ fields := by
  have hreverse : (later.reverse.map (·.1)).Nodup := by
    rwa [List.map_reverse, List.nodup_reverse]
  rw [← field?_eq_some_iff (nodup_setFields later hnodup), field?_setFields,
    Option.or_eq_some_iff, field?_eq_some_iff hreverse, field?_eq_none_iff,
    field?_eq_some_iff hnodup, List.mem_reverse, List.map_reverse, List.mem_reverse]

/-- Keys that come once are set in their order. -/
lemma setFields_of_nodup (later : List (Text × α))
    (h : ((fields ++ later).map (·.1)).Nodup) : setFields later fields = fields ++ later := by
  induction later generalizing fields with
  | nil => simp
  | cons field later ih =>
    have hsplit : fields ++ field :: later = (fields ++ [field]) ++ later := by simp
    have hfirst : field.1 ∉ fields.map (·.1) := by
      intro hmem
      rw [List.map_append, List.map_cons] at h
      exact List.disjoint_of_nodup_append h hmem List.mem_cons_self
    rw [setFields_cons, setField_of_not_mem hfirst, ih (hsplit ▸ h), hsplit]

lemma setFields_nil_of_nodup (later : List (Text × α)) (h : (later.map (·.1)).Nodup) :
    setFields later [] = later :=
  setFields_of_nodup later h

lemma filter_setFields_of_not {p : Text → Bool} {later : List (Text × α)}
    (h : ∀ field ∈ later, p field.1 = false) :
    (setFields later fields).filter (p ·.1) = fields.filter (p ·.1) := by
  induction later generalizing fields with
  | nil => rfl
  | cons field later ih =>
    rw [setFields_cons, ih fun other hother => h other (List.mem_cons_of_mem _ hother),
      filter_setField_of_not (h field List.mem_cons_self)]

/-- Where at most one of the fields satisfies a test on the keys, and only `key` does among those
that are set, the last field to satisfy it is the one that is set, if any is. -/
lemma getLast?_filter_setFields {p : Text → Bool} {later : List (Text × α)}
    (hone : (fields.filter (p ·.1)).length ≤ 1) (hnodup : (later.map (·.1)).Nodup)
    (hkey : ∀ field ∈ later, p field.1 = true ↔ field.1 = key) :
    ((setFields later fields).filter (p ·.1)).getLast?.map (·.2) =
      (field? key later).or ((fields.find? (p ·.1)).map (·.2)) := by
  induction later using List.reverseRecOn with
  | nil =>
    rw [setFields_nil, field?_nil, Option.none_or, ← List.head?_filter]
    generalize fields.filter (p ·.1) = matching at hone ⊢
    match matching, hone with
    | [], _ => rfl
    | [_], _ => rfl
  | append_singleton later field ih =>
    rw [List.map_append, List.nodup_append'] at hnodup
    obtain ⟨hlater, -, hapart⟩ := hnodup
    have hfield := hkey field (by simp)
    have hothers : ∀ other ∈ later, p other.1 = true ↔ other.1 = key := fun other hother =>
      hkey other (List.mem_append_left _ hother)
    rw [setFields_append, setFields_cons, setFields_nil, field?_append, field?_cons, field?_nil]
    by_cases hsame : field.1 = key
    · have hnone : key ∉ later.map (·.1) := fun hmem => hapart hmem (by simp [hsame])
      have hnot : ∀ other ∈ later, p other.1 = false := by
        intro other hother
        refine Bool.eq_false_iff.2 fun hp => hnone ?_
        exact (hothers other hother).1 hp ▸ List.mem_map_of_mem hother
      have hfiltered : (setFields later fields).filter (p ·.1) = fields.filter (p ·.1) :=
        filter_setFields_of_not hnot
      rw [getLast?_filter_setField (hfield.2 hsame) (hfiltered ▸ hone), field?_eq_none_iff.2 hnone,
        if_pos hsame]
      rfl
    · have hnot : p field.1 = false := Bool.eq_false_iff.2 fun hp => hsame (hfield.1 hp)
      rw [filter_setField_of_not hnot, ih hlater hothers, if_neg hsame, Option.or_none]

end Retrace.Json
