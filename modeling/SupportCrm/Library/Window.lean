import Mathlib.Algebra.Order.Group.Defs
import SupportCrm.Library.Table

/-!
# Sliding windows

Entries of a table have a kind and a time. A table is spaced when any two entries of one kind
lie more than a gap apart. It stays so when an entry is inserted more than a gap after all
others of its kind, and when the latest entry of a kind is moved to a later time: these are
the two things that a service does which refreshes what is recent and creates what is not.
-/

set_option autoImplicit false

namespace KeyedTable.Table

universe u v w x

variable {ρ : Type u} {κ : Type v} {key : ρ → Option κ} {χ : Type w} {T : Type x}
variable [AddCommGroup T] [LinearOrder T]
variable {kind : ρ → χ} {time : ρ → T} {gap : T} {t : Table key}

/-- Of any two entries of one kind, one lies more than the gap after the other. -/
def Spaced (kind : ρ → χ) (time : ρ → T) (gap : T) (t : Table key) : Prop :=
  ∀ a ∈ t.rows, ∀ b ∈ t.rows, a ≠ b → kind a.val = kind b.val →
    time a.val + gap < time b.val ∨ time b.val + gap < time a.val

theorem spaced_empty : (empty : Table key).Spaced kind time gap :=
  fun _ listed => absurd listed List.not_mem_nil

/-- Entries of one kind that are not more than the gap apart are one entry. -/
theorem Spaced.eq (spaced : t.Spaced kind time gap) {a b : Entry ρ} (ha : a ∈ t.rows)
    (hb : b ∈ t.rows) (same : kind a.val = kind b.val) (near : time b.val ≤ time a.val + gap)
    (near' : time a.val ≤ time b.val + gap) : a = b := by
  by_contra distinct
  rcases spaced a ha b hb distinct same with later | later
  · exact near.not_gt later
  · exact near'.not_gt later

/-- An entry is the only one of its kind and time. -/
theorem Spaced.only (spaced : t.Spaced kind time gap) (nonneg : ∀ τ : T, τ ≤ τ + gap)
    {p : Entry ρ → Bool} {row : Entry ρ} (member : row ∈ t.rows) (meets : p row = true)
    (same : ∀ other ∈ t.rows, p other = true →
      kind other.val = kind row.val ∧ time other.val = time row.val) : t.rows.filter p = [row] := by
  have distinct : (t.rows.filter p).Nodup := (List.Nodup.of_map _ t.ids).filter p
  refine List.perm_singleton.mp
    ((List.perm_ext_iff_of_nodup distinct (List.nodup_singleton row)).mpr fun other => ?_)
  rw [List.mem_filter, List.mem_singleton]
  constructor
  · rintro ⟨listed, holds⟩
    obtain ⟨kinds, times⟩ := same other listed holds
    refine spaced.eq listed member kinds ?_ ?_
    · rw [times]
      exact nonneg _
    · rw [times]
      exact nonneg _
  · rintro rfl
    exact ⟨member, meets⟩

theorem Spaced.insert (spaced : t.Spaced kind time gap) {v : ρ} (free : t.Free v)
    (old : ∀ row ∈ t.rows, kind row.val = kind v → time row.val + gap < time v) :
    (t.insert v free).Spaced kind time gap := by
  intro a ha b hb distinct same
  rcases (mem_insert free).mp ha with ha | rfl
  · rcases (mem_insert free).mp hb with hb | rfl
    · exact spaced a ha b hb distinct same
    · exact .inl (old a ha same)
  · rcases (mem_insert free).mp hb with hb | rfl
    · exact .inr (old b hb same.symm)
    · exact absurd rfl distinct

/-- The latest entry of a kind is moved to a time that is not earlier. -/
theorem Spaced.update [IsOrderedAddMonoid T] (spaced : t.Spaced kind time gap) {f : ρ → ρ}
    (keeps : ∀ v, key (f v) = key v) {row : Entry ρ} (member : row ∈ t.rows)
    (kindly : ∀ v, kind (f v) = kind v) (nonneg : 0 ≤ gap)
    (latest : ∀ other ∈ t.rows, kind other.val = kind row.val → time other.val ≤ time row.val)
    (up : time row.val ≤ time (f row.val)) :
    (t.update row.id f keeps).Spaced kind time gap := by
  -- what is of the kind of the latest entry lies more than the gap before it
  have before : ∀ other ∈ t.rows, other ≠ row → kind other.val = kind row.val →
      time other.val + gap < time (f row.val) := by
    intro other listed distinct same
    refine lt_of_lt_of_le ?_ up
    rcases spaced other listed row member distinct same with later | later
    · exact later
    · exact absurd ((le_add_of_nonneg_right nonneg).trans_lt later)
        (latest other listed same).not_gt
  have changed : ∀ other ∈ t.rows, other ≠ row → other.change row.id f = other := fun other listed
      distinct => Entry.change_of_ne _ _ fun same => distinct (eq_of_id_eq listed member same)
  have moved : row.change row.id f = ⟨row.id, f row.val⟩ := Entry.change_self f row
  intro a' ha' b' hb' distinct same
  obtain ⟨a, ha, rfl⟩ := (mem_update keeps).mp ha'
  obtain ⟨b, hb, rfl⟩ := (mem_update keeps).mp hb'
  by_cases first : a = row
  · by_cases second : b = row
    · exact absurd (by rw [first, second]) distinct
    · rw [first, moved, changed b hb second] at same ⊢
      exact .inr (before b hb second (same.symm.trans (kindly row.val)))
  · by_cases second : b = row
    · rw [second, moved, changed a ha first] at same ⊢
      exact .inl (before a ha first (same.trans (kindly row.val)))
    · rw [changed a ha first, changed b hb second] at same distinct ⊢
      exact spaced a ha b hb distinct same

/-- A change that leaves kinds and times alone. -/
theorem Spaced.updateMany (spaced : t.Spaced kind time gap) {p : Entry ρ → Bool} {f : ρ → ρ}
    (keeps : ∀ v, key (f v) = key v) (kindly : ∀ v, kind (f v) = kind v)
    (timely : ∀ v, time (f v) = time v) : (t.updateMany p f keeps).Spaced kind time gap := by
  intro a' ha' b' hb' distinct same
  obtain ⟨a, ha, rfl⟩ := (mem_updateMany keeps).mp ha'
  obtain ⟨b, hb, rfl⟩ := (mem_updateMany keeps).mp hb'
  have other : a ≠ b := fun equal => distinct (by rw [equal])
  have kinds : ∀ row : Entry ρ, kind (if p row then ⟨row.id, f row.val⟩ else row : Entry ρ).val =
      kind row.val := by
    intro row
    split
    · exact kindly row.val
    · rfl
  have times : ∀ row : Entry ρ, time (if p row then ⟨row.id, f row.val⟩ else row : Entry ρ).val =
      time row.val := by
    intro row
    split
    · exact timely row.val
    · rfl
  rw [kinds, kinds] at same
  rw [times, times]
  exact spaced a ha b hb other same

end KeyedTable.Table
