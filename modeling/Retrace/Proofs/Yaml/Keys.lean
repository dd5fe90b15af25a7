import Retrace.Proofs.Json.Fields
import Retrace.Proofs.Traversal
import Retrace.Yaml.Construction

/-!
# Keys of a document

Where a mapping of a document has a key twice, the later value takes the place of the former, so in
the value of a document no mapping has a key twice, however deep it lies (`distinct_of_load`).

A mapping is made from pairs one after another, which is plain.  It has to be seen too that nothing
else makes one: what a scalar is turned into is never a mapping, at any moment of the construction
(`Construction.Sound`).
-/

namespace Retrace.Yaml

mutual

/-- No mapping in a value has a key twice. -/
def Value.Distinct : Value → Prop
  | .list items => DistinctItems items
  | .mapping fields _ => (fields.map (·.1)).Nodup ∧ DistinctFields fields
  | _ => True

/-- The same of the items of a list. -/
def DistinctItems : List Value → Prop
  | [] => True
  | v :: items => v.Distinct ∧ DistinctItems items

/-- The same of the values of fields. -/
def DistinctFields : List (Text × Value) → Prop
  | [] => True
  | (_, v) :: fields => v.Distinct ∧ DistinctFields fields

end

lemma distinctItems_iff {items : List Value} : DistinctItems items ↔ ∀ v ∈ items, v.Distinct := by
  induction items with
  | nil => simp [DistinctItems]
  | cons v items ih => rw [DistinctItems, ih, List.forall_mem_cons]

lemma distinctFields_iff {fields : List (Text × Value)} :
    DistinctFields fields ↔ ∀ field ∈ fields, field.2.Distinct := by
  induction fields with
  | nil => simp [DistinctFields]
  | cons field fields ih => rw [DistinctFields, ih, List.forall_mem_cons]

lemma distinct_mapping_iff {fields : List (Text × Value)} {otherKeys : Bool} :
    (Value.mapping fields otherKeys).Distinct ↔
      (fields.map (·.1)).Nodup ∧ ∀ field ∈ fields, field.2.Distinct := by
  rw [Value.Distinct, distinctFields_iff]

/-! ## Scalars -/

lemma Graph.distinct_of_leaf {g : Graph} {node : Node} {id : Nat} {v : Value}
    (h : g.leaf node id = .ok v) : v.Distinct := by
  unfold leaf at h
  dsimp only at h
  split at h
  · obtain ⟨_, -, rfl⟩ := map_eq_ok_iff.1 h
    exact trivial
  · obtain ⟨t, -, h⟩ := bind_eq_ok_iff.1 h
    split at h
    · obtain rfl := Except.ok.inj h
      exact trivial
    · cases h
  · obtain ⟨t, -, h⟩ := bind_eq_ok_iff.1 h
    obtain ⟨_, -, rfl⟩ := map_eq_ok_iff.1 h
    exact trivial
  · obtain ⟨t, -, h⟩ := bind_eq_ok_iff.1 h
    obtain ⟨_, -, rfl⟩ := map_eq_ok_iff.1 h
    exact trivial
  · obtain ⟨t, -, h⟩ := bind_eq_ok_iff.1 h
    split at h
    · obtain rfl := Except.ok.inj h
      exact trivial
    · cases h
  · obtain ⟨t, -, h⟩ := bind_eq_ok_iff.1 h
    unfold momentOf at h
    split at h
    · split at h
      · cases h
      · split at h
        · cases h
        · obtain rfl := Except.ok.inj h
          exact trivial
    · cases h
  · obtain ⟨_, -, rfl⟩ := map_eq_ok_iff.1 h
    exact trivial
  · cases h

/-! ## The construction -/

namespace Construction

variable {c c' : Construction} {id : Nat}

/-- No mapping in what has been made of scalars has a key twice. -/
def Sound (c : Construction) : Prop := ∀ id v, c.made? id = some (.leaf v) → v.Distinct

lemma made?_make {m m' : Made} {other : Nat} (h : (c.make id m).made? other = some m') :
    m' = m ∨ c.made? other = some m' := by
  unfold made? make at h
  rw [Array.getElem?_setIfInBounds] at h
  split at h
  · split at h
    · exact Or.inl (Option.some.inj h).symm
    · cases h
  · exact Or.inr h

lemma Sound.make {m : Made} (hsound : c.Sound) (hm : ∀ v, m = .leaf v → v.Distinct) :
    (c.make id m).Sound := by
  intro other v h
  rcases made?_make h with hleaf | h
  · exact hm v hleaf.symm
  · exact hsound other v h

lemma Sound.reach (hsound : c.Sound) (h : c.reach id = .ok c') : c'.Sound := by
  unfold Construction.reach at h
  split at h
  · obtain rfl := Except.ok.inj h
    exact hsound
  · cases h
  · split at h
    · obtain rfl := Except.ok.inj h
      exact hsound.make (by rintro v ⟨⟩)
    · obtain ⟨v, hv, rfl⟩ := map_eq_ok_iff.1 h
      refine hsound.make ?_
      rintro _ ⟨rfl⟩
      exact Graph.distinct_of_leaf hv

lemma Sound.reachKey (hsound : c.Sound) (h : c.reachKey id = .ok c') : c'.Sound := by
  obtain ⟨next, hnext, h⟩ := bind_eq_ok_iff.1 h
  split at h
  · obtain rfl := Except.ok.inj h
    exact hsound.reach hnext
  · cases h

lemma Sound.reachPairs {pairs : List (Nat × Nat)} (hsound : c.Sound)
    (h : c.reachPairs id = .ok (pairs, c')) : c'.Sound := by
  obtain ⟨⟨merged, nodes⟩, -, h⟩ := bind_eq_ok_iff.1 h
  obtain ⟨next, hnext, h⟩ := bind_eq_ok_iff.1 h
  obtain ⟨rfl, rfl⟩ := Prod.mk.inj (Except.ok.inj h)
  refine foldlM_keeps (P := Sound) ?_ (show Sound { c with nodes } from hsound) hnext
  intro before pair after hbefore hpair
  obtain ⟨keyed, hkeyed, hreached⟩ := bind_eq_ok_iff.1 hpair
  exact (hbefore.reachKey hkeyed).reach hreached

lemma Sound.reachOnlyPair (hsound : c.Sound) (h : c.reachOnlyPair id = .ok c') : c'.Sound := by
  unfold Construction.reachOnlyPair at h
  split at h
  · obtain ⟨keyed, hkeyed, h⟩ := bind_eq_ok_iff.1 h
    exact (hsound.reach hkeyed).reach h
  · cases h

lemma Sound.fill (hsound : c.Sound) (h : c.fill id = .ok c') : c'.Sound := by
  unfold Construction.fill at h
  split at h
  · cases h
  split at h
  · obtain ⟨next, hnext, h⟩ := bind_eq_ok_iff.1 h
    obtain rfl := Except.ok.inj h
    exact (foldlM_keeps (fun _ _ _ => Sound.reach) hsound hnext).make (by rintro v ⟨⟩)
  · obtain ⟨next, hnext, h⟩ := bind_eq_ok_iff.1 h
    obtain rfl := Except.ok.inj h
    exact (foldlM_keeps (fun _ _ _ => Sound.reachOnlyPair) hsound hnext).make (by rintro v ⟨⟩)
  · obtain ⟨⟨pairs, next⟩, hnext, h⟩ := bind_eq_ok_iff.1 h
    obtain rfl := Except.ok.inj h
    exact (hsound.reachPairs hnext).make (by rintro v ⟨⟩)
  · obtain ⟨⟨pairs, next⟩, hnext, h⟩ := bind_eq_ok_iff.1 h
    obtain rfl := Except.ok.inj h
    exact (hsound.reachPairs hnext).make (by rintro v ⟨⟩)
  · cases h

lemma Sound.fillAll {steps : Nat} (hsound : c.Sound) (h : fillAll steps c = .ok c') :
    c'.Sound := by
  induction steps generalizing c with
  | zero =>
    obtain rfl := Except.ok.inj h
    exact hsound
  | succ steps ih =>
    unfold Construction.fillAll at h
    split at h
    · obtain rfl := Except.ok.inj h
      exact hsound
    · next waiting _ =>
      obtain ⟨next, hnext, h⟩ := bind_eq_ok_iff.1 h
      exact ih (Sound.fill (c := { c with waiting }) hsound hnext) h

lemma sound_of_run {g : Graph} {root : Nat} (h : run g root = .ok c) : c.Sound := by
  obtain ⟨start, hstart, h⟩ := bind_eq_ok_iff.1 h
  refine Sound.fillAll (Sound.reach ?_ hstart) h
  intro id v hv
  unfold made? at hv
  rw [Array.getElem?_replicate] at hv
  split at hv <;> cases hv

/-! ## The value -/

/-- Fields without a key that comes twice, on any level. -/
def DistinctMapping (m : List (Text × Value) × Bool) : Prop :=
  (m.1.map (·.1)).Nodup ∧ ∀ field ∈ m.1, field.2.Distinct

lemma DistinctMapping.addPair {key value : Value} {m : List (Text × Value) × Bool}
    (hm : DistinctMapping m) (hvalue : value.Distinct) : DistinctMapping (addPair key value m) := by
  obtain ⟨fields, otherKeys⟩ := m
  obtain ⟨hnodup, hfields⟩ := hm
  cases key with
  | text t =>
    refine ⟨Json.nodup_setField hnodup, fun field hfield => ?_⟩
    rcases Json.mem_setField hfield with rfl | hfield
    · exact hvalue
    · exact hfields field hfield
  | _ => exact ⟨hnodup, hfields⟩

lemma Sound.tree (hsound : c.Sound) (depth id : Nat) : (c.tree depth id).Distinct := by
  induction depth generalizing id with
  | zero => exact trivial
  | succ depth ih =>
    rw [Construction.tree]
    split
    · exact trivial
    · exact trivial
    · next v hv => exact hsound id v hv
    · rw [Value.Distinct, distinctItems_iff]
      intro v hv
      obtain ⟨item, -, rfl⟩ := List.mem_map.1 hv
      exact ih item
    · rw [Value.Distinct, distinctItems_iff]
      intro v hv
      rw [List.eq_of_mem_replicate hv]
      exact trivial
    · exact trivial
    · refine distinct_mapping_iff.2 (List.foldlRecOn _ _ (motive := DistinctMapping) ?_ ?_)
      · exact ⟨List.nodup_nil, by rintro _ ⟨⟩⟩
      · intro m hm pair _
        dsimp only
        split
        · exact hm.addPair (ih pair.2)
        · exact hm

end Construction

/-- **No key comes twice.** No mapping in the value of a document has a key twice. -/
theorem distinct_of_load {depth : Nat} {t : Text} {v : Value} (h : load depth t = .ok v) :
    v.Distinct := by
  obtain ⟨composed, -, h⟩ := bind_eq_ok_iff.1 h
  split at h
  · obtain rfl := Except.ok.inj h
    exact trivial
  · next g root =>
    obtain ⟨c, hc, h⟩ := bind_eq_ok_iff.1 h
    obtain rfl := Except.ok.inj h
    exact (Construction.sound_of_run hc).tree depth root

end Retrace.Yaml
