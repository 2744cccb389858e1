import Mathlib.Data.List.MinMax
import Mathlib.Data.List.Nodup
import Mathlib.Data.List.Pairwise

/-!
# Keyed tables

A table is a list of entries in the order of their creation. Every entry has an
identifier that the table handed out, and a value. A table may carry one unique index:
a partial key of the value that no two entries share. Entries whose value has no key
(`none`, the SQL `NULL`) never collide.

The three laws of a table are fields of the structure, so a table that breaks them
cannot be built: identifiers lie below the next free one, no identifier occurs twice,
and the index is unique. An insertion or a change that would break the index is refused
(`insert?`, `modify?`). A change that keeps the key of every value always succeeds
(`update`).

`latest` is the first entry of greatest rank among those that satisfy a condition. An
entry that is the latest one stays so when its rank does not fall (`latest_update`), and
an inserted entry of greater rank than all others becomes it (`latest_insert`).
-/

set_option autoImplicit false

namespace KeyedTable

universe u v w

/-- A stored value with the identifier it was given. -/
structure Entry (ρ : Type u) where
  id : ℕ
  val : ρ
  deriving DecidableEq, Repr

/-- Apply a change to the entry with the given identifier, and to no other. -/
def Entry.change {ρ : Type u} (id : ℕ) (f : ρ → ρ) (entry : Entry ρ) : Entry ρ :=
  if entry.id = id then ⟨entry.id, f entry.val⟩ else entry

section Change

variable {ρ : Type u} (id : ℕ) (f : ρ → ρ) (entry : Entry ρ)

@[simp] theorem Entry.change_id : (entry.change id f).id = entry.id := by
  unfold Entry.change
  split <;> rfl

theorem Entry.ids_change (entries : List (Entry ρ)) :
    (entries.map (Entry.change id f)).map Entry.id = entries.map Entry.id := by
  have same : Entry.id ∘ Entry.change id f = Entry.id := by
    funext entry
    exact entry.change_id id f
  rw [List.map_map, same]

theorem Entry.change_of_ne {entry : Entry ρ} (other : entry.id ≠ id) :
    entry.change id f = entry := by
  simp [Entry.change, other]

theorem Entry.change_self : (⟨entry.id, entry.val⟩ : Entry ρ).change entry.id f =
    ⟨entry.id, f entry.val⟩ := by
  simp [Entry.change]

/-- What the change of a value leaves alone, the change of an entry leaves alone. -/
theorem Entry.change_same {α : Sort v} (g : ρ → α) (same : ∀ value, g (f value) = g value) :
    g (entry.change id f).val = g entry.val := by
  unfold Entry.change
  split
  · exact same entry.val
  · rfl

/-- The entry with its value mapped. -/
def Entry.map {ρ' : Type v} (g : ρ → ρ') (entry : Entry ρ) : Entry ρ' := ⟨entry.id, g entry.val⟩

/-- What is mapped after a change is what is changed after a map. -/
theorem Entry.map_change {ρ' : Type v} {g : ρ → ρ'} {h : ρ' → ρ'}
    (commutes : ∀ value, g (f value) = h (g value)) :
    (entry.change id f).map g = (entry.map g).change id h := by
  unfold Entry.change Entry.map
  split
  · rw [commutes]
  · rfl

end Change

/-- Two values do not collide in the unique index `key`. -/
def Apart {ρ : Type u} {κ : Type v} (key : ρ → Option κ) (a b : ρ) : Prop :=
  key a = none ∨ key a ≠ key b

instance {ρ : Type u} {κ : Type v} [DecidableEq κ] (key : ρ → Option κ) (a b : ρ) :
    Decidable (Apart key a b) :=
  inferInstanceAs (Decidable (key a = none ∨ key a ≠ key b))

theorem Apart.symm {ρ : Type u} {κ : Type v} {key : ρ → Option κ} {a b : ρ}
    (apart : Apart key a b) : Apart key b a := by
  rcases apart with keyless | ne
  · by_cases same : key b = none
    · exact .inl same
    · exact .inr fun equal => same (equal.trans keyless)
  · exact .inr ne.symm

/-- A table whose values have the partial unique key `key`. -/
structure Table {ρ : Type u} {κ : Type v} (key : ρ → Option κ) where
  rows : List (Entry ρ)
  next : ℕ
  below : ∀ row ∈ rows, row.id < next
  ids : (rows.map Entry.id).Nodup
  unique : rows.Pairwise fun a b => Apart key a.val b.val

namespace Table

variable {ρ : Type u} {κ : Type v} {key : ρ → Option κ}

@[ext] theorem ext {t t' : Table key} (rows : t.rows = t'.rows) (next : t.next = t'.next) :
    t = t' := by
  cases t
  cases t'
  cases rows
  cases next
  rfl

/-- The table without entries. -/
def empty : Table key where
  rows := []
  next := 0
  below := by simp
  ids := by simp
  unique := .nil

/-! ## Reading -/

/-- The entry with an identifier. -/
def find? (t : Table key) (id : ℕ) : Option (Entry ρ) :=
  t.rows.find? fun row => row.id = id

/-- The entry with a key. -/
def findKey? [DecidableEq κ] (t : Table key) (k : κ) : Option (Entry ρ) :=
  t.rows.find? fun row => key row.val = some k

/-- The identifier of the entry with a key, or the one it gets when it is inserted next. -/
def idOf [DecidableEq κ] (t : Table key) (k : κ) : ℕ := (t.findKey? k).elim t.next Entry.id

/-- The first entry that satisfies `p` and whose rank is greatest among those. -/
def latest {τ : Type w} [LinearOrder τ] (t : Table key) (p : Entry ρ → Bool) (rank : ρ → τ) :
    Option (Entry ρ) :=
  (t.rows.filter p).argmax fun row => rank row.val

theorem eq_of_id_eq {t : Table key} {a b : Entry ρ} (ha : a ∈ t.rows) (hb : b ∈ t.rows)
    (same : a.id = b.id) : a = b :=
  List.inj_on_of_nodup_map t.ids ha hb same

theorem find?_eq_some_iff {t : Table key} {id : ℕ} {row : Entry ρ} :
    t.find? id = some row ↔ row ∈ t.rows ∧ row.id = id := by
  constructor
  · intro found
    exact ⟨List.mem_of_find?_eq_some found, by simpa using List.find?_some found⟩
  · rintro ⟨member, rfl⟩
    cases found : t.find? row.id with
    | none =>
        have absent := List.find?_eq_none.mp found row member
        simp at absent
    | some other =>
        have same : other.id = row.id := by simpa using List.find?_some found
        rw [eq_of_id_eq (List.mem_of_find?_eq_some found) member same]

theorem find?_eq_none_iff {t : Table key} {id : ℕ} :
    t.find? id = none ↔ ∀ row ∈ t.rows, row.id ≠ id := by
  simp [find?, List.find?_eq_none]

theorem mem_of_find? {t : Table key} {id : ℕ} {row : Entry ρ} (found : t.find? id = some row) :
    row ∈ t.rows :=
  (find?_eq_some_iff.mp found).1

theorem id_of_find? {t : Table key} {id : ℕ} {row : Entry ρ} (found : t.find? id = some row) :
    row.id = id :=
  (find?_eq_some_iff.mp found).2

theorem find?_self {t : Table key} {row : Entry ρ} (member : row ∈ t.rows) :
    t.find? row.id = some row :=
  find?_eq_some_iff.mpr ⟨member, rfl⟩

/-- Among the rows that are asked for, an identifier finds the row that it has. -/
theorem find?_filter_of_mem (t : Table key) {id : ℕ} {ids : List ℕ} (asked : id ∈ ids) :
    (t.rows.filter fun row => row.id ∈ ids).find? (fun row => row.id = id) = t.find? id := by
  rw [List.find?_filter, find?]
  congr 1
  funext row
  by_cases own : row.id = id
  · simp [own, asked]
  · simp [own]

theorem find?_next (t : Table key) : t.find? t.next = none :=
  find?_eq_none_iff.mpr fun row member => (t.below row member).ne

theorem lt_next_of_find? {t : Table key} {id : ℕ} {row : Entry ρ}
    (found : t.find? id = some row) : id < t.next :=
  id_of_find? found ▸ t.below row (mem_of_find? found)

theorem eq_of_key_eq {t : Table key} {a b : Entry ρ} {k : κ} (ha : a ∈ t.rows) (hb : b ∈ t.rows)
    (keyA : key a.val = some k) (keyB : key b.val = some k) : a = b := by
  by_contra distinct
  have : Std.Symm fun a b : Entry ρ => Apart key a.val b.val := ⟨fun _ _ => Apart.symm⟩
  rcases t.unique.forall ha hb distinct with keyless | ne
  · simp [keyA] at keyless
  · exact ne (keyA.trans keyB.symm)

theorem findKey?_eq_some_iff [DecidableEq κ] {t : Table key} {k : κ} {row : Entry ρ} :
    t.findKey? k = some row ↔ row ∈ t.rows ∧ key row.val = some k := by
  constructor
  · intro found
    exact ⟨List.mem_of_find?_eq_some found, by simpa using List.find?_some found⟩
  · rintro ⟨member, has⟩
    cases found : t.findKey? k with
    | none =>
        have absent := List.find?_eq_none.mp found row member
        simp [has] at absent
    | some other =>
        have otherHas : key other.val = some k := by simpa using List.find?_some found
        rw [eq_of_key_eq (List.mem_of_find?_eq_some found) member otherHas has]

theorem findKey?_eq_none_iff [DecidableEq κ] {t : Table key} {k : κ} :
    t.findKey? k = none ↔ ∀ row ∈ t.rows, key row.val ≠ some k := by
  simp [findKey?, List.find?_eq_none]

theorem idOf_of_findKey? [DecidableEq κ] {t : Table key} {k : κ} {row : Entry ρ}
    (found : t.findKey? k = some row) : t.idOf k = row.id := by
  rw [idOf, found]
  rfl

theorem latest_eq_none_iff {τ : Type w} [LinearOrder τ] {t : Table key} {p : Entry ρ → Bool}
    {rank : ρ → τ} : t.latest p rank = none ↔ ∀ row ∈ t.rows, p row = false := by
  simp [latest, List.argmax_eq_none, List.filter_eq_nil_iff]

theorem mem_of_latest {τ : Type w} [LinearOrder τ] {t : Table key} {p : Entry ρ → Bool}
    {rank : ρ → τ} {row : Entry ρ} (found : t.latest p rank = some row) :
    row ∈ t.rows ∧ p row = true :=
  List.mem_filter.mp (List.argmax_mem found)

theorem le_of_latest {τ : Type w} [LinearOrder τ] {t : Table key} {p : Entry ρ → Bool}
    {rank : ρ → τ} {row other : Entry ρ} (found : t.latest p rank = some row)
    (member : other ∈ t.rows) (meets : p other = true) : rank other.val ≤ rank row.val :=
  List.le_of_mem_argmax (f := fun row : Entry ρ => rank row.val)
    (List.mem_filter.mpr ⟨member, meets⟩) found

/-- No entry that satisfies `p` has a greater rank than this one, which satisfies it. -/
structure IsLatest {τ : Type w} [LinearOrder τ] (t : Table key) (p : Entry ρ → Bool) (rank : ρ → τ)
    (row : Entry ρ) : Prop where
  member : row ∈ t.rows
  meets : p row = true
  greatest : ∀ other ∈ t.rows, p other = true → rank other.val ≤ rank row.val

/-- The answers to a query for the latest entry: any such entry, and nothing when no entry
satisfies `p`. -/
inductive AnswersLatest {τ : Type w} [LinearOrder τ] (t : Table key) (p : Entry ρ → Bool)
    (rank : ρ → τ) : Option (Entry ρ) → Prop where
  | none (absent : ∀ row ∈ t.rows, p row = false) : AnswersLatest t p rank none
  | some {row : Entry ρ} (latest : t.IsLatest p rank row) : AnswersLatest t p rank (some row)

/-- `latest` is one of the answers. -/
theorem latest_answers {τ : Type w} [LinearOrder τ] (t : Table key) (p : Entry ρ → Bool)
    (rank : ρ → τ) : t.AnswersLatest p rank (t.latest p rank) := by
  cases found : t.latest p rank with
  | none => exact .none (latest_eq_none_iff.mp found)
  | some row =>
      obtain ⟨member, meets⟩ := mem_of_latest found
      exact .some ⟨member, meets, fun _ listed holds => le_of_latest found listed holds⟩

/-! ## Insertion -/

/-- No entry collides with the value in the unique index. -/
def Free (t : Table key) (v : ρ) : Prop := ∀ row ∈ t.rows, Apart key row.val v

instance [DecidableEq κ] (t : Table key) (v : ρ) : Decidable (t.Free v) :=
  inferInstanceAs (Decidable (∀ row ∈ t.rows, Apart key row.val v))

theorem free_of_none {t : Table key} {v : ρ} (keyless : key v = none) : t.Free v :=
  fun _ _ => Apart.symm (.inl keyless)

theorem free_iff_findKey? [DecidableEq κ] {t : Table key} {v : ρ} {k : κ}
    (keyV : key v = some k) : t.Free v ↔ t.findKey? k = none := by
  rw [findKey?_eq_none_iff]
  refine forall₂_congr fun row _ => ?_
  simp only [Apart, keyV]
  constructor
  · rintro (keyless | ne)
    · simp [keyless]
    · exact ne
  · exact .inr

/-- Append a value under the next identifier. -/
def insert (t : Table key) (v : ρ) (free : t.Free v) : Table key where
  rows := t.rows ++ [⟨t.next, v⟩]
  next := t.next + 1
  below := by
    intro row member
    rcases List.mem_append.mp member with old | new
    · exact Nat.lt_succ_of_lt (t.below row old)
    · simp [List.mem_singleton.mp new]
  ids := by
    rw [List.map_append, List.nodup_append]
    refine ⟨t.ids, by simp, fun id old other new => ?_⟩
    obtain ⟨row, member, rfl⟩ := List.mem_map.mp old
    obtain rfl : other = t.next := by simpa using new
    exact (t.below row member).ne
  unique := by
    refine List.pairwise_append.mpr ⟨t.unique, by simp, fun row old other new => ?_⟩
    rw [List.mem_singleton.mp new]
    exact free row old

/-- Append a value, unless it collides in the unique index. -/
def insert? [DecidableEq κ] (t : Table key) (v : ρ) : Option (Table key) :=
  if free : t.Free v then some (t.insert v free) else none

section Insert

variable {t : Table key} {v : ρ} {free : t.Free v}

@[simp] theorem insert_rows : (t.insert v free).rows = t.rows ++ [⟨t.next, v⟩] := rfl

@[simp] theorem insert_next : (t.insert v free).next = t.next + 1 := rfl

theorem mem_insert (free : t.Free v) {row : Entry ρ} :
    row ∈ (t.insert v free).rows ↔ row ∈ t.rows ∨ row = ⟨t.next, v⟩ := by
  simp

@[simp] theorem find?_insert_self (free : t.Free v) :
    (t.insert v free).find? t.next = some ⟨t.next, v⟩ :=
  find?_eq_some_iff.mpr ⟨by simp, rfl⟩

theorem find?_insert_of_ne (free : t.Free v) {id : ℕ} (old : id ≠ t.next) :
    (t.insert v free).find? id = t.find? id := by
  simp only [find?, insert_rows, List.find?_append]
  cases t.rows.find? fun row => row.id = id <;> simp [old.symm]

theorem find?_insert_of_some (free : t.Free v) {id : ℕ} {row : Entry ρ}
    (found : t.find? id = some row) :
    (t.insert v free).find? id = some row :=
  (find?_insert_of_ne free (lt_next_of_find? found).ne).trans found

theorem isSome_find?_insert (free : t.Free v) {id : ℕ} (present : (t.find? id).isSome) :
    ((t.insert v free).find? id).isSome := by
  obtain ⟨row, found⟩ := Option.isSome_iff_exists.mp present
  simp [find?_insert_of_some free found]

theorem findKey?_insert_of_some [DecidableEq κ] {k : κ} {row : Entry ρ}
    (found : t.findKey? k = some row) : (t.insert v free).findKey? k = some row := by
  rw [findKey?_eq_some_iff] at found ⊢
  exact ⟨(mem_insert free).mpr (.inl found.1), found.2⟩

theorem idOf_insert [DecidableEq κ] {k : κ} (free : t.Free v) (keyV : key v = some k) :
    (t.insert v free).idOf k = t.idOf k := by
  have created : (t.insert v free).findKey? k = some ⟨t.next, v⟩ :=
    findKey?_eq_some_iff.mpr ⟨by simp, keyV⟩
  rw [idOf_of_findKey? created, idOf, (free_iff_findKey? keyV).mp free]
  rfl

/-- An inserted entry whose rank exceeds all others is the latest one. -/
theorem latest_insert {τ : Type w} [LinearOrder τ] {p : Entry ρ → Bool} {rank : ρ → τ}
    (meets : p ⟨t.next, v⟩ = true)
    (greatest : ∀ row ∈ t.rows, p row = true → rank row.val < rank v) :
    (t.insert v free).latest p rank = some ⟨t.next, v⟩ := by
  simp only [latest, insert_rows, List.filter_append, List.filter_singleton, meets, cond_true,
    List.argmax_concat]
  cases found : (t.rows.filter p).argmax fun row => rank row.val with
  | none => rfl
  | some row =>
      have below := List.mem_filter.mp (List.argmax_mem found)
      simp [greatest row below.1 below.2]

end Insert

/-- Find the entry with a key, or append a value that has it. -/
inductive FoundOrCreated [DecidableEq κ] (t : Table key) (k : κ) (v : ρ) :
    Entry ρ → Table key → Prop where
  | found {row : Entry ρ} (found : t.findKey? k = some row) : FoundOrCreated t k v row t
  | created (absent : t.findKey? k = none) (free : t.Free v) :
      FoundOrCreated t k v ⟨t.next, v⟩ (t.insert v free)

namespace FoundOrCreated

variable [DecidableEq κ] {t t' : Table key} {k : κ} {v : ρ} {row : Entry ρ}

theorem findKey? (done : t.FoundOrCreated k v row t') (keyV : key v = some k) :
    t'.findKey? k = some row := by
  cases done with
  | found found => exact found
  | created absent free => exact findKey?_eq_some_iff.mpr ⟨by simp, keyV⟩

theorem find?_of_some (done : t.FoundOrCreated k v row t') {id : ℕ} {other : Entry ρ}
    (found : t.find? id = some other) : t'.find? id = some other := by
  cases done with
  | found _ => exact found
  | created absent free => exact find?_insert_of_some free found

theorem unique {t'' : Table key} {row' : Entry ρ} (done : t.FoundOrCreated k v row t')
    (done' : t.FoundOrCreated k v row' t'') : row' = row ∧ t'' = t' := by
  cases done with
  | found found =>
      cases done' with
      | found found' => exact ⟨Option.some.inj (found'.symm.trans found), rfl⟩
      | created absent _ => cases absent.symm.trans found
  | created absent _ =>
      cases done' with
      | found found' => cases absent.symm.trans found'
      | created _ _ => exact ⟨rfl, rfl⟩

/-- Asked again, the entry is found. -/
theorem again {t'' : Table key} {row' : Entry ρ} (done : t.FoundOrCreated k v row t')
    (keyV : key v = some k) (done' : t'.FoundOrCreated k v row' t'') : row' = row ∧ t'' = t' :=
  unique (.found (done.findKey? keyV)) done'

end FoundOrCreated

/-! ## Change -/

/-- Change the value of one entry, keeping the key of every value. -/
def update (t : Table key) (id : ℕ) (f : ρ → ρ) (keeps : ∀ v, key (f v) = key v) :
    Table key where
  rows := t.rows.map (Entry.change id f)
  next := t.next
  below := by
    intro row member
    obtain ⟨old, oldMember, rfl⟩ := List.mem_map.mp member
    simpa using t.below old oldMember
  ids := by
    rw [Entry.ids_change]
    exact t.ids
  unique := by
    have same : ∀ row : Entry ρ, key (row.change id f).val = key row.val := by
      intro row
      unfold Entry.change
      split
      · exact keeps row.val
      · rfl
    refine List.pairwise_map.mpr (t.unique.imp fun {a b} apart => ?_)
    simpa only [Apart, same] using apart

section Update

variable {t : Table key} {id : ℕ} {f : ρ → ρ} {keeps : ∀ v, key (f v) = key v}

@[simp] theorem update_rows : (t.update id f keeps).rows = t.rows.map (Entry.change id f) := rfl

@[simp] theorem update_next : (t.update id f keeps).next = t.next := rfl

theorem mem_update (keeps : ∀ v, key (f v) = key v) {row : Entry ρ} :
    row ∈ (t.update id f keeps).rows ↔ ∃ old ∈ t.rows, old.change id f = row :=
  List.mem_map

/-- A change that gives the value that is already there. -/
theorem update_of_fixed (keeps : ∀ v, key (f v) = key v)
    (fixed : ∀ row ∈ t.rows, row.id = id → f row.val = row.val) : t.update id f keeps = t := by
  refine Table.ext ?_ rfl
  rw [update_rows]
  refine (List.map_congr_left fun row member => ?_).trans (List.map_id _)
  unfold Entry.change
  split
  · next own => simp [fixed row member own]
  · rfl

theorem find?_update (keeps : ∀ v, key (f v) = key v) (other : ℕ) :
    (t.update id f keeps).find? other = (t.find? other).map (Entry.change id f) := by
  simp only [find?, update_rows, List.find?_map]
  congr 2
  funext row
  simp

theorem find?_update_of_ne (keeps : ∀ v, key (f v) = key v) {other : ℕ} (ne : other ≠ id) :
    (t.update id f keeps).find? other = t.find? other := by
  rw [find?_update]
  cases found : t.find? other with
  | none => rfl
  | some row =>
      have rowNe : row.id ≠ id := by rwa [id_of_find? found]
      simp [Entry.change_of_ne id f rowNe]

theorem find?_update_self (keeps : ∀ v, key (f v) = key v) {row : Entry ρ}
    (found : t.find? id = some row) :
    (t.update id f keeps).find? id = some ⟨id, f row.val⟩ := by
  rw [find?_update, found]
  simp [Entry.change, id_of_find? found]

theorem findKey?_update [DecidableEq κ] (keeps : ∀ v, key (f v) = key v) (k : κ) :
    (t.update id f keeps).findKey? k = (t.findKey? k).map (Entry.change id f) := by
  simp only [findKey?, update_rows, List.find?_map]
  congr 2
  funext row
  simp [Entry.change_same id f row key keeps]

theorem idOf_update [DecidableEq κ] (keeps : ∀ v, key (f v) = key v) (k : κ) :
    (t.update id f keeps).idOf k = t.idOf k := by
  rw [idOf, findKey?_update, idOf]
  cases t.findKey? k with
  | none => rfl
  | some row => exact Entry.change_id id f row

/-- A change that leaves a condition on the values alone leaves the number of entries that
meet it. -/
theorem countP_update (keeps : ∀ v, key (f v) = key v) (q : ρ → Bool) (same : ∀ v, q (f v) = q v) :
    ((t.update id f keeps).rows.countP fun row => q row.val) = t.rows.countP fun row => q row.val := by
  rw [update_rows, List.countP_map]
  refine List.countP_congr fun row _ => ?_
  rw [Function.comp_apply, Entry.change_same id f row q same]

theorem isSome_find?_update (keeps : ∀ v, key (f v) = key v) (other : ℕ) :
    ((t.update id f keeps).find? other).isSome = (t.find? other).isSome := by
  rw [find?_update]
  exact Option.isSome_map

end Update

/-- An argument of greatest value stays one when its value does not fall and nothing else
moves. -/
theorem argmax_map_of_le {α : Type u} {τ : Type w} [LinearOrder τ] (rank : α → τ) {g : α → α}
    {greatest : α} : ∀ {l : List α}, l.argmax rank = some greatest →
      rank greatest ≤ rank (g greatest) → (∀ a ∈ l, a ≠ greatest → g a = a) →
        (l.map g).argmax rank = some (g greatest)
  | [], found, _, _ => by simp at found
  | a :: rest, found, up, fixed => by
      rw [List.argmax_cons] at found
      rw [List.map_cons, List.argmax_cons]
      cases restFound : rest.argmax rank with
      | none =>
          obtain rfl := List.argmax_eq_none.mp restFound
          simp only [restFound, Option.some.injEq] at found
          simp [found]
      | some c =>
          simp only [restFound] at found
          split at found
          · next lower =>
            cases found
            have distinct : a ≠ greatest := fun same => lower.ne (congrArg rank same)
            have later := argmax_map_of_le rank restFound up fun b member =>
              fixed b (List.mem_cons_of_mem a member)
            simp [later, fixed a List.mem_cons_self distinct, lower.trans_le up]
          · next higher =>
            obtain rfl := Option.some.inj found
            cases mapped : (rest.map g).argmax rank with
            | none => rfl
            | some d =>
                obtain ⟨b, member, rfl⟩ := List.mem_map.mp (List.argmax_mem mapped)
                have notAbove : ¬ rank (g a) < rank (g b) := by
                  by_cases same : b = a
                  · simp [same]
                  · rw [fixed b (List.mem_cons_of_mem a member) same]
                    have below : rank b ≤ rank c := List.le_of_mem_argmax member restFound
                    exact not_lt.mpr (below.trans ((not_lt.mp higher).trans up))
                simp [notAbove]

/-- The greatest argument of a mapped list. -/
theorem argmax_map {α β : Type u} {τ : Type w} [LinearOrder τ] (rank : β → τ) (g : α → β)
    (l : List α) : (l.map g).argmax rank = (l.argmax (rank ∘ g)).map g := by
  induction l using List.reverseRecOn with
  | nil => rfl
  | append_singleton rest last ih =>
      rw [List.map_append, List.map_singleton, List.argmax_concat, List.argmax_concat, ih]
      cases rest.argmax (rank ∘ g) with
      | none => rfl
      | some a =>
          simp only [Option.map_some, Function.comp_apply]
          split <;> rfl

/-- Among arguments of increasing value the last one is greatest. -/
theorem argmax_of_increasing {α : Type u} {τ : Type w} [LinearOrder τ] {rank : α → τ} {l : List α}
    (increasing : l.Pairwise fun a b => rank a < rank b) : l.argmax rank = l.getLast? := by
  induction l using List.reverseRecOn with
  | nil => rfl
  | append_singleton rest last ih =>
      obtain ⟨first, -, below⟩ := List.pairwise_append.mp increasing
      rw [List.argmax_concat, List.getLast?_concat]
      cases greatest : rest.argmax rank with
      | none => rfl
      | some a =>
          have lower := below a (List.argmax_mem greatest) last (List.mem_singleton_self last)
          simp [lower]

theorem latest_of_increasing {τ : Type w} [LinearOrder τ] {t : Table key} {p : Entry ρ → Bool}
    {rank : ρ → τ} (increasing : (t.rows.filter p).Pairwise fun a b => rank a.val < rank b.val) :
    t.latest p rank = (t.rows.filter p).getLast? :=
  argmax_of_increasing increasing

/-- The latest entry stays the latest when its rank does not fall. -/
theorem latest_update {τ : Type w} [LinearOrder τ] {t : Table key} {id : ℕ} {f : ρ → ρ}
    (keeps : ∀ v, key (f v) = key v) {p : Entry ρ → Bool} {rank : ρ → τ} {row : Entry ρ}
    (found : t.latest p rank = some row) (own : row.id = id)
    (sameCondition : ∀ other ∈ t.rows, p (other.change id f) = p other)
    (up : rank row.val ≤ rank (f row.val)) :
    (t.update id f keeps).latest p rank = some ⟨id, f row.val⟩ := by
  have filtered : (t.rows.map (Entry.change id f)).filter p =
      (t.rows.filter p).map (Entry.change id f) := by
    rw [List.filter_map]
    congr 1
    exact List.filter_congr fun other member => sameCondition other member
  have changed : row.change id f = ⟨id, f row.val⟩ := by simp [Entry.change, own]
  rw [latest, update_rows, filtered, ← changed]
  refine argmax_map_of_le (fun row : Entry ρ => rank row.val) found ?_ ?_
  · simpa [changed] using up
  · intro other member distinct
    refine Entry.change_of_ne id f fun same => distinct ?_
    exact eq_of_id_eq (List.mem_filter.mp member).1 (mem_of_latest found).1 (same.trans own.symm)

/-- What is mapped has the same latest entry, if the condition and the rank do not depend on
what is lost. -/
theorem latest_map {ρ' : Type u} {τ : Type w} [LinearOrder τ] (t : Table key) {g : ρ → ρ'}
    {p : Entry ρ → Bool} {p' : Entry ρ' → Bool} {rank : ρ → τ} {rank' : ρ' → τ}
    (condition : ∀ row, p' (row.map g) = p row) (ranks : ∀ value, rank' (g value) = rank value) :
    (t.latest p rank).map (Entry.map g) =
      ((t.rows.map (Entry.map g)).filter p').argmax fun row => rank' row.val := by
  have sameCondition : p' ∘ Entry.map g = p := funext condition
  have sameRank : (fun row : Entry ρ' => rank' row.val) ∘ Entry.map g = fun row => rank row.val :=
    funext fun row => ranks row.val
  rw [List.filter_map, argmax_map, sameCondition, sameRank]
  rfl

/-- Store a value under its key: in place of the value that has the key, or as a new one. -/
def put [DecidableEq κ] (t : Table key) (v : ρ) {k : κ} (keyV : key v = some k) : Table key :=
  match found : t.findKey? k with
  | some row =>
      t.update row.id (fun old => if key old = key v then v else old) fun old => by
        split
        · next same => exact same.symm
        · rfl
  | none => t.insert v ((free_iff_findKey? keyV).mpr found)

section Put

variable [DecidableEq κ] {t : Table key} {v : ρ} {k : κ}

theorem mem_put (keyV : key v = some k) {row : Entry ρ} :
    row ∈ (t.put v keyV).rows ↔
      row ∈ t.rows ∧ key row.val ≠ some k ∨ row = ⟨t.idOf k, v⟩ := by
  unfold put
  split
  · next old found =>
    obtain ⟨member, keyOld⟩ := findKey?_eq_some_iff.mp found
    rw [idOf_of_findKey? found, mem_update]
    constructor
    · rintro ⟨other, listed, rfl⟩
      by_cases same : other.id = old.id
      · obtain rfl := eq_of_id_eq listed member same
        refine .inr ?_
        simp [Entry.change, keyOld, keyV]
      · rw [Entry.change_of_ne _ _ same]
        exact .inl ⟨listed, fun keyOther => same (congrArg Entry.id
          (eq_of_key_eq listed member keyOther keyOld))⟩
    · rintro (⟨listed, other⟩ | rfl)
      · refine ⟨row, listed, Entry.change_of_ne _ _ fun same => other ?_⟩
        rw [eq_of_id_eq listed member same, keyOld]
      · exact ⟨old, member, by simp [Entry.change, keyOld, keyV]⟩
  · next absent =>
    rw [mem_insert, idOf, absent]
    have other : ∀ row ∈ t.rows, key row.val ≠ some k := findKey?_eq_none_iff.mp absent
    exact or_congr_left ⟨fun listed => ⟨listed, other row listed⟩, And.left⟩

theorem findKey?_put_self (keyV : key v = some k) :
    (t.put v keyV).findKey? k = some ⟨t.idOf k, v⟩ :=
  findKey?_eq_some_iff.mpr ⟨(mem_put keyV).mpr (.inr rfl), keyV⟩

theorem findKey?_put_of_ne (keyV : key v = some k) {k' : κ} {row : Entry ρ} (ne : k' ≠ k)
    (found : t.findKey? k' = some row) : (t.put v keyV).findKey? k' = some row := by
  obtain ⟨member, keyRow⟩ := findKey?_eq_some_iff.mp found
  refine findKey?_eq_some_iff.mpr ⟨(mem_put keyV).mpr (.inl ⟨member, ?_⟩), keyRow⟩
  rw [keyRow]
  exact fun same => ne (Option.some.inj same)

end Put

/-- Change the value of one entry, unless its new value collides with another entry. -/
def modify? [DecidableEq κ] (t : Table key) (id : ℕ) (f : ρ → ρ) : Option (Table key) :=
  if apart : ∀ a ∈ t.rows, a.id = id → ∀ b ∈ t.rows, b.id ≠ id → Apart key (f a.val) b.val then
    some {
      rows := t.rows.map (Entry.change id f)
      next := t.next
      below := by
        intro row member
        obtain ⟨old, oldMember, rfl⟩ := List.mem_map.mp member
        simpa using t.below old oldMember
      ids := by
        rw [Entry.ids_change]
        exact t.ids
      unique := by
        refine List.pairwise_map.mpr
          ((t.unique.and (List.pairwise_map.mp t.ids)).imp_of_mem fun {a b} ha hb both => ?_)
        by_cases first : a.id = id
        · have second : b.id ≠ id := fun same => both.2 (first.trans same.symm)
          simpa [Entry.change, first, second] using apart a ha first b hb second
        · by_cases second : b.id = id
          · simpa [Entry.change, first, second] using (apart b hb second a ha first).symm
          · simpa [Entry.change, first, second] using both.1 }
  else none

theorem modify?_rows [DecidableEq κ] {t t' : Table key} {id : ℕ} {f : ρ → ρ}
    (changed : t.modify? id f = some t') : t'.rows = t.rows.map (Entry.change id f) := by
  unfold modify? at changed
  split at changed
  · cases changed
    rfl
  · cases changed

theorem modify?_next [DecidableEq κ] {t t' : Table key} {id : ℕ} {f : ρ → ρ}
    (changed : t.modify? id f = some t') : t'.next = t.next := by
  unfold modify? at changed
  split at changed
  · cases changed
    rfl
  · cases changed

theorem mem_modify? [DecidableEq κ] {t t' : Table key} {id : ℕ} {f : ρ → ρ} {row : Entry ρ}
    (changed : t.modify? id f = some t') :
    row ∈ t'.rows ↔ ∃ old ∈ t.rows, old.change id f = row := by
  rw [modify?_rows changed, List.mem_map]

theorem find?_modify? [DecidableEq κ] {t t' : Table key} {id : ℕ} {f : ρ → ρ}
    (changed : t.modify? id f = some t') (other : ℕ) :
    t'.find? other = (t.find? other).map (Entry.change id f) := by
  simp only [find?, modify?_rows changed, List.find?_map]
  congr 2
  funext row
  simp

theorem modify?_eq_none_iff [DecidableEq κ] {t : Table key} {id : ℕ} {f : ρ → ρ} :
    t.modify? id f = none ↔
      ∃ a ∈ t.rows, a.id = id ∧ ∃ b ∈ t.rows, b.id ≠ id ∧ ¬ Apart key (f a.val) b.val := by
  unfold modify?
  split
  · next apart =>
    simp only [reduceCtorEq, false_iff, not_exists, not_and, not_not]
    exact apart
  · next collides =>
    push Not at collides
    simpa using collides

/-- Change the values that meet a condition, keeping the key of every value. -/
def updateMany (t : Table key) (p : Entry ρ → Bool) (f : ρ → ρ) (keeps : ∀ v, key (f v) = key v) :
    Table key :=
  have ids : (t.rows.map fun row => if p row then ⟨row.id, f row.val⟩ else row).map Entry.id =
      t.rows.map Entry.id := by
    rw [List.map_map]
    refine List.map_congr_left fun row _ => ?_
    simp only [Function.comp]
    split <;> rfl
  { rows := t.rows.map fun row => if p row then ⟨row.id, f row.val⟩ else row
    next := t.next
    below := by
      intro row member
      obtain ⟨old, listed, rfl⟩ := List.mem_map.mp member
      split
      · exact t.below old listed
      · exact t.below old listed
    ids := by
      rw [ids]
      exact t.ids
    unique := by
      refine List.pairwise_map.mpr (t.unique.imp fun {a b} apart => ?_)
      have same : ∀ row : Entry ρ, key (if p row then (⟨row.id, f row.val⟩ : Entry ρ) else row).val =
          key row.val := by
        intro row
        split
        · exact keeps row.val
        · rfl
      simpa only [Apart, same] using apart }

theorem mem_updateMany {t : Table key} {p : Entry ρ → Bool} {f : ρ → ρ}
    (keeps : ∀ v, key (f v) = key v) {row : Entry ρ} : row ∈ (t.updateMany p f keeps).rows ↔
      ∃ old ∈ t.rows, (if p old then ⟨old.id, f old.val⟩ else old) = row :=
  List.mem_map

theorem countP_updateMany {t : Table key} {p : Entry ρ → Bool} {f : ρ → ρ}
    (keeps : ∀ v, key (f v) = key v) (q : ρ → Bool) (same : ∀ v, q (f v) = q v) :
    ((t.updateMany p f keeps).rows.countP fun row => q row.val) =
      t.rows.countP fun row => q row.val := by
  rw [updateMany, List.countP_map]
  refine List.countP_congr fun row _ => ?_
  rw [Function.comp_apply]
  split
  · rw [same]
  · rfl

/-- Drop the entry with an identifier. -/
def delete (t : Table key) (id : ℕ) : Table key where
  rows := t.rows.filter fun row => row.id ≠ id
  next := t.next
  below := fun row member => t.below row (List.mem_filter.mp member).1
  ids := List.Nodup.sublist (List.filter_sublist.map _) t.ids
  unique := t.unique.sublist List.filter_sublist

theorem mem_delete {t : Table key} {id : ℕ} {row : Entry ρ} :
    row ∈ (t.delete id).rows ↔ row ∈ t.rows ∧ row.id ≠ id := by
  simp [delete]

/-- Drop the entries of a list, one after another. -/
theorem rows_foldl_delete (t : Table key) (entries : List (Entry ρ)) :
    (entries.foldl (fun table row => table.delete row.id) t).rows =
      t.rows.filter fun row => row.id ∉ entries.map Entry.id := by
  induction entries generalizing t with
  | nil => simp
  | cons entry rest ih =>
      rw [List.foldl_cons, ih, delete, List.filter_filter]
      refine List.filter_congr fun row _ => ?_
      by_cases same : row.id = entry.id <;> simp [same]

/-- Dropping the entries that meet a condition leaves the others. -/
theorem rows_foldl_delete_filter (t : Table key) (p : Entry ρ → Bool) :
    ((t.rows.filter p).foldl (fun table row => table.delete row.id) t).rows =
      t.rows.filter fun row => !p row := by
  rw [rows_foldl_delete]
  refine List.filter_congr fun row member => ?_
  cases meets : p row with
  | true =>
      have listed : row.id ∈ (t.rows.filter p).map Entry.id :=
        List.mem_map_of_mem (List.mem_filter.mpr ⟨member, meets⟩)
      simp [listed]
  | false =>
      have unlisted : row.id ∉ (t.rows.filter p).map Entry.id := by
        intro listed
        obtain ⟨other, found, same⟩ := List.mem_map.mp listed
        obtain ⟨member', meets'⟩ := List.mem_filter.mp found
        obtain rfl := eq_of_id_eq member' member same
        cases meets'.symm.trans meets
      simp [unlisted]

theorem find?_delete_self (t : Table key) (id : ℕ) : (t.delete id).find? id = none :=
  find?_eq_none_iff.mpr fun _ listed => (mem_delete.mp listed).2

theorem find?_delete_of_ne (t : Table key) {id other : ℕ} (ne : other ≠ id) :
    (t.delete id).find? other = t.find? other := by
  cases found : t.find? other with
  | none =>
      refine find?_eq_none_iff.mpr fun row listed => ?_
      exact find?_eq_none_iff.mp found row (mem_delete.mp listed).1
  | some row =>
      obtain ⟨member, rfl⟩ := find?_eq_some_iff.mp found
      exact find?_self (mem_delete.mpr ⟨member, ne⟩)

theorem findKey?_delete_of_ne [DecidableEq κ] (t : Table key) {id : ℕ} {k : κ}
    (other : ∀ row, t.findKey? k = some row → row.id ≠ id) :
    (t.delete id).findKey? k = t.findKey? k := by
  cases found : t.findKey? k with
  | none =>
      refine findKey?_eq_none_iff.mpr fun row listed => ?_
      exact findKey?_eq_none_iff.mp found row (mem_delete.mp listed).1
  | some row =>
      obtain ⟨member, own⟩ := findKey?_eq_some_iff.mp found
      exact findKey?_eq_some_iff.mpr ⟨mem_delete.mpr ⟨member, other row found⟩, own⟩

end Table

/-! ## Values by key -/

/-- A value in the place of the one with its key, or at the end. -/
def upsert {ρ : Type u} {κ : Type v} [DecidableEq κ] (key : ρ → Option κ) (v : ρ)
    (values : List ρ) : List ρ :=
  if values.any fun old => key old = key v then
    values.map fun old => if key old = key v then v else old
  else values ++ [v]

section Upsert

variable {ρ : Type u} {κ : Type v} [DecidableEq κ] {key : ρ → Option κ} {v : ρ} {values : List ρ}
variable {q : ρ → Bool}

/-- What replaces a value is of its kind, if all values with a key are of the same kind. -/
theorem replaced_kind (same : ∀ old, key old = key v → q old = q v) (old : ρ) :
    q (if key old = key v then v else old) = q old := by
  split
  · next equal => exact (same old equal).symm
  · rfl

/-- Among the values of one kind. -/
theorem filter_upsert_of_true (same : ∀ old, key old = key v → q old = q v) (own : q v = true) :
    (upsert key v values).filter q = upsert key v (values.filter q) := by
  have kind : ∀ old, key old = key v → q old = true := fun old equal => (same old equal).trans own
  have found : (values.filter q).any (fun old => key old = key v) =
      values.any fun old => key old = key v := by
    rw [List.any_filter]
    refine congrArg values.any (funext fun old => ?_)
    by_cases equal : key old = key v
    · simp [equal, kind old equal]
    · simp [equal]
  simp only [upsert, found]
  split
  · rw [List.filter_map]
    exact congrArg (List.map _) (List.filter_congr fun old _ => replaced_kind same old)
  · rw [List.filter_append, List.filter_singleton, own]
    rfl

/-- The values of another kind stay as they are. -/
theorem filter_upsert_of_false (same : ∀ old, key old = key v → q old = q v) (other : q v = false) :
    (upsert key v values).filter q = values.filter q := by
  have kind : ∀ old, key old = key v → q old = false :=
    fun old equal => (same old equal).trans other
  unfold upsert
  split
  · rw [List.filter_map]
    have conditions : values.filter (q ∘ fun old => if key old = key v then v else old) =
        values.filter q := List.filter_congr fun old _ => replaced_kind same old
    rw [conditions]
    refine (List.map_congr_left fun old listed => ?_).trans (List.map_id _)
    refine if_neg fun equal => ?_
    cases (kind old equal).symm.trans (List.mem_filter.mp listed).2
  · rw [List.filter_append, List.filter_singleton, other]
    exact List.append_nil _

end Upsert

namespace Table

variable {ρ : Type u} {κ : Type v} {key : ρ → Option κ}

/-- The values of a table after one is stored under its key. -/
theorem values_put [DecidableEq κ] {t : Table key} {v : ρ} {k : κ} (keyV : key v = some k) :
    (t.put v keyV).rows.map Entry.val = upsert key v (t.rows.map Entry.val) := by
  unfold put upsert
  split
  · next row found =>
    obtain ⟨member, own⟩ := findKey?_eq_some_iff.mp found
    have present : (t.rows.map Entry.val).any (fun old => key old = key v) = true := by
      refine List.any_eq_true.mpr ⟨row.val, List.mem_map_of_mem member, ?_⟩
      simp [own, keyV]
    rw [if_pos present, update_rows, List.map_map, List.map_map]
    refine List.map_congr_left fun other listed => ?_
    by_cases same : other.id = row.id
    · simp [Entry.change, same]
    · have apart : key other.val ≠ key v := by
        intro equal
        exact same (congrArg Entry.id (eq_of_key_eq listed member (equal.trans keyV) own))
      simp [Entry.change, same, apart]
  · next absent =>
    have missing : ¬ (t.rows.map Entry.val).any (fun old => key old = key v) = true := by
      intro present
      obtain ⟨value, listed, equal⟩ := List.any_eq_true.mp present
      obtain ⟨row, member, rfl⟩ := List.mem_map.mp listed
      exact findKey?_eq_none_iff.mp absent row member ((of_decide_eq_true equal).trans keyV)
    rw [if_neg missing, insert_rows, List.map_append]
    rfl

/-- The value with a key is found among the values. -/
theorem findKey?_map_val [DecidableEq κ] (t : Table key) (k : κ) :
    (t.findKey? k).map Entry.val =
      (t.rows.map Entry.val).find? fun value => key value = some k := by
  rw [List.find?_map]
  rfl

end Table
end KeyedTable
