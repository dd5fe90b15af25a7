import Retrace.FileTree
import Retrace.Proofs.Traversal

/-!
# Writing to a file tree

A write puts bytes at one place.  What stands at the other places is not only a matter of the
items, since all that is on the way to an item is a directory; but a place that a path leads to has
something on all of the way to it already (`grounded_of_locate`).  So a write changes nothing at
any other place, and the path then reads as what was written (`written_of_write`).
-/

namespace Retrace.FileTree

variable {tree : FileTree} {place other : Place} {item : FileItem} {path : Text}
  {bytes : List UInt8}

/-- One tree has bytes in the file at a path, and is otherwise like another. -/
structure Written (before : FileTree) (path : Text) (bytes : List UInt8) (after : FileTree) :
    Prop where
  read : after.read path = .ok bytes
  here : after.here = before.here
  others : ∃ place, before.locate path = .ok place ∧
    after.item? place = some (.file bytes) ∧
    ∀ other, other ≠ place → after.item? other = before.item? other

/-! ## Items -/

lemma lookup_setItem_self (place : Place) (item : FileItem) (items : List (Place × FileItem)) :
    (setItem place item items).lookup place = some item := by
  induction items with
  | nil => simp [setItem]
  | cons head items ih =>
    obtain ⟨other, old⟩ := head
    rw [setItem]
    split
    · simp
    · next hkey =>
      have hother : (place == other) = false := beq_false_of_ne (Ne.symm hkey)
      rw [List.lookup_cons, hother, ih]

lemma lookup_setItem_of_ne (hne : other ≠ place) (item : FileItem)
    (items : List (Place × FileItem)) :
    (setItem place item items).lookup other = items.lookup other := by
  induction items with
  | nil => rw [setItem, List.lookup_cons, beq_false_of_ne hne]
  | cons head items ih =>
    obtain ⟨key, old⟩ := head
    rw [setItem]
    split
    · next hkey =>
      subst hkey
      have hother : (other == key) = false := beq_false_of_ne hne
      rw [List.lookup_cons, List.lookup_cons, hother]
    · rw [List.lookup_cons, List.lookup_cons, ih]

lemma any_setItem (p : Place → Bool) (place : Place) (item : FileItem)
    (items : List (Place × FileItem)) :
    ((setItem place item items).any fun (key, _) => p key) =
      (p place || items.any fun (key, _) => p key) := by
  induction items with
  | nil => simp [setItem]
  | cons head items ih =>
    obtain ⟨key, old⟩ := head
    rw [setItem]
    split
    · next hkey =>
      subst hkey
      simp
    · simp only [List.any_cons, ih, Bool.or_left_comm]

/-! ## What stands at a place -/

/-- Something stands at every place on the way to a place. -/
def Grounded (tree : FileTree) (place : Place) : Prop :=
  ∀ other, other <+: place → other ≠ place → tree.item? other ≠ none

lemma set_here (tree : FileTree) (place : Place) (item : FileItem) :
    (tree.set place item).here = tree.here := rfl

lemma item?_set_self (tree : FileTree) (place : Place) (item : FileItem) :
    (tree.set place item).item? place = some item := by
  rw [item?, set, lookup_setItem_self]

/-- An item at a grounded place changes nothing at any other. -/
lemma item?_set_of_ne (hground : tree.Grounded place) (hne : other ≠ place) :
    (tree.set place item).item? other = tree.item? other := by
  have hway : other.isPrefixOf place = true → tree.item? other ≠ none :=
    fun hlead => hground other (List.isPrefixOf_iff_prefix.1 hlead) hne
  rw [item?] at hway
  rw [item?, item?, set, lookup_setItem_of_ne hne]
  cases hlookup : tree.items.lookup other with
  | some old => rfl
  | none =>
    rw [hlookup] at hway
    rw [any_setItem fun key => other.isPrefixOf key]
    by_cases hlead : other.isPrefixOf place = true
    · -- It is on the way to the new item, and so it was a directory before.
      have hknown : (other.isPrefixOf tree.here ||
          tree.items.any fun (key, _) => other.isPrefixOf key) = true := by
        by_contra hno
        exact hway hlead (if_neg hno)
      simp only [hlead, hknown, Bool.true_or, Bool.or_true]
    · simp only [hlead, Bool.false_or]

/-! ## Ways -/

lemma enter_eq_ok_iff {name : Text} :
    tree.enter place name = .ok other ↔ tree.item? place = some .directory ∧
      (Utf8.encode name).length ≤ FilePath.nameLimit ∧ place.step name = other := by
  rw [enter]
  cases hitem : tree.item? place with
  | none => simp
  | some item =>
    cases item with
    | file bytes => simp
    | directory =>
      by_cases hlong : FilePath.nameLimit < (Utf8.encode name).length
      · simp [hlong]
      · simp [hlong, Nat.le_of_not_lt hlong]

lemma Grounded.enter {name : Text} (hground : tree.Grounded place)
    (h : tree.enter place name = .ok other) : tree.Grounded other := by
  obtain ⟨hdirectory, -, rfl⟩ := enter_eq_ok_iff.1 h
  intro further hlead hne
  rw [Place.step] at hlead hne
  split at hlead
  · next hback =>
    -- Whatever lies on the way back lay on the way there.
    refine hground further (hlead.trans (List.dropLast_prefix place)) ?_
    rintro rfl
    rw [if_pos hback] at hne
    exact hne (hlead.eq_of_length_le (by simp))
  · next hback =>
    rw [if_neg hback] at hne
    rcases List.prefix_concat_iff.1 hlead with heq | hlead
    · exact absurd heq hne
    · by_cases hplace : further = place
      · simp [hplace, hdirectory]
      · exact hground further hlead hplace

lemma grounded_start (tree : FileTree) (path : Text) : tree.Grounded (tree.start path) := by
  intro other hlead _
  rw [start] at hlead
  have hhere : other <+: tree.here := by
    split at hlead
    · rw [List.prefix_nil.1 hlead]
      exact List.nil_prefix
    · exact hlead
  rw [item?, List.isPrefixOf_iff_prefix.2 hhere]
  split <;> simp

lemma Grounded.foldlM {names : List Text} (hground : tree.Grounded place)
    (h : names.foldlM tree.enter place = .ok other) : tree.Grounded other :=
  foldlM_keeps (fun _ _ _ hground hnext => hground.enter hnext) hground h

lemma foldlM_of_locate (h : tree.locate path = .ok place) :
    (FilePath.names path).foldlM tree.enter (tree.start path) = .ok place := by
  rw [locate] at h
  split at h
  · cases h
  · split at h
    · cases h
    · exact h

/-- Where a path leads to, something stands on all of the way. -/
lemma grounded_of_locate (h : tree.locate path = .ok place) : tree.Grounded place :=
  (grounded_start tree path).foldlM (foldlM_of_locate h)

/-- A way leads on where its directories stay. -/
lemma foldlM_enter_mono {after : FileTree} {names : List Text}
    (hstay : ∀ place, tree.item? place = some .directory → after.item? place = some .directory)
    (h : names.foldlM tree.enter place = .ok other) :
    names.foldlM after.enter place = .ok other := by
  induction names generalizing place with
  | nil => exact h
  | cons name names ih =>
    obtain ⟨next, hnext, hrest⟩ := bind_eq_ok_iff.1 h
    obtain ⟨hdirectory, hshort, hstep⟩ := enter_eq_ok_iff.1 hnext
    exact bind_eq_ok_iff.2
      ⟨next, enter_eq_ok_iff.2 ⟨hstay place hdirectory, hshort, hstep⟩, ih hrest⟩

lemma locate_mono {after : FileTree} (hhere : after.here = tree.here)
    (hstay : ∀ place, tree.item? place = some .directory → after.item? place = some .directory)
    (h : tree.locate path = .ok place) : after.locate path = .ok place := by
  have hway := foldlM_enter_mono hstay (foldlM_of_locate h)
  rw [locate] at h ⊢
  have hstart : after.start path = tree.start path := by rw [start, start, hhere]
  rw [hstart, hway]
  split at h
  · cases h
  · split at h
    · cases h
    · simp_all

/-! ## Writes -/

lemma find_eq_ok_iff : tree.find path = .ok item ↔
    ∃ place, tree.locate path = .ok place ∧ tree.item? place = some item := by
  rw [find, bind_eq_ok_iff]
  refine exists_congr fun place => and_congr_right fun _ => ?_
  cases tree.item? place with
  | none => exact ⟨nofun, nofun⟩
  | some found => simp [pure, Except.pure]

lemma read_eq_ok_iff : tree.read path = .ok bytes ↔
    ∃ place, tree.locate path = .ok place ∧ tree.item? place = some (.file bytes) := by
  rw [← find_eq_ok_iff, read, bind_eq_ok_iff]
  constructor
  · rintro ⟨item, hitem, hbytes⟩
    cases item with
    | file found =>
      obtain rfl := Except.ok.inj hbytes
      exact hitem
    | directory => cases hbytes
  · exact fun h => ⟨_, h, rfl⟩

/-- What it takes to write at a path: it leads to a place, and no directory stands there. -/
lemma write_eq_ok_iff {after : FileTree} : tree.write path bytes = .ok after ↔
    ∃ place, tree.locate path = .ok place ∧ tree.item? place ≠ some .directory ∧
      tree.set place (.file bytes) = after := by
  rw [write, bind_eq_ok_iff]
  refine exists_congr fun place => and_congr_right fun _ => ?_
  cases tree.item? place with
  | none => simp [pure, Except.pure]
  | some item =>
    cases item with
    | file old => simp [pure, Except.pure]
    | directory => exact ⟨nofun, fun h => absurd rfl h.1⟩

/-- **Writes.** A write leaves its bytes in the file at its path, and nothing else. -/
theorem written_of_write {after : FileTree} (h : tree.write path bytes = .ok after) :
    Written tree path bytes after := by
  obtain ⟨place, hplace, hfree, rfl⟩ := write_eq_ok_iff.1 h
  have hself := item?_set_self tree place (.file bytes)
  have hothers : ∀ other, other ≠ place →
      (tree.set place (.file bytes)).item? other = tree.item? other :=
    fun other => item?_set_of_ne (grounded_of_locate hplace)
  have hstay : ∀ other, tree.item? other = some .directory →
      (tree.set place (.file bytes)).item? other = some .directory := by
    intro other hdirectory
    rw [hothers other, hdirectory]
    rintro rfl
    exact hfree hdirectory
  have hlocate : (tree.set place (.file bytes)).locate path = .ok place :=
    locate_mono (tree.set_here place _) hstay hplace
  exact ⟨read_eq_ok_iff.2 ⟨place, hlocate, hself⟩, tree.set_here place _,
    place, hplace, hself, hothers⟩

end Retrace.FileTree
